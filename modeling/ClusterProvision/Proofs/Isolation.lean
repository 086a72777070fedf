import ClusterProvision.Proofs.Journal
import ClusterProvision.Proofs.TimedReference

/-!
# `ClusterProvision.Proofs.Isolation`: what a provider sees of each node

The tasks of a crew share nothing but the collector, and the collector makes no calls. So what a
provider sees of a node is what it would see if the node were the only one, whatever becomes of
the others and whether or not the collector has returned. `Crew.EachAlone` says what that is:

* for a node of a known role, one create call, through the role's method and for that node;
* for a node of an unknown role, nothing;
* calls on a created node only after its create call has succeeded.

`Provisioning.eachAlone_run` proves it for every schedule after which all tasks have ended. On the
virtual clock, all create calls are made at time 0 (`Crew.CreatesAtStart`): the order of the roles
makes no node wait for another.
-/

set_option autoImplicit false

namespace ClusterProvision

namespace NodeRun

section
variable (settings : Settings) (provider : Provider) (label : String) {spec : NodeSpec}

/-- A node of an unknown role has no events in its course. -/
theorem events_course_of_unknown (h : spec.role.isKnown = false) :
    (course settings provider label spec).events = [] := by
  show (provision settings provider label spec 0).events = []
  rw [provision_of_unknown h]

/-- The course of a node of a known role starts with the create call. Unless it ends there, the
success of that call comes next, and no create call after it. -/
theorem events_course_of_known (h : spec.role.isKnown = true) :
    ∃ method, method.role = spec.role
      ∧ ((course settings provider label spec).events
          = [(0, .called (.create method (request label spec)))]
        ∨ ∃ since later, (course settings provider label spec).events
            = (0, .called (.create method (request label spec)))
              :: (since, .succeeded (.create method (request label spec))) :: later
          ∧ ∀ entry ∈ later, entry.2.call.isCreate = false) := by
  obtain ⟨method, hmethod, hrole⟩ := Role.exists_createMethod h
  refine ⟨method, hrole, ?_⟩
  by_cases hcreated : (provider.behaviour spec.name).create.outcome = .success
  · right
    show ∃ since later, (provision settings provider label spec 0).events = _ ∧ _
    rw [provision_of_created hmethod hcreated]
    exact ⟨_, _, rfl, Fixup.createsNone_run _ _ _ _ _⟩
  · left
    exact (provision_of_not_created hmethod hcreated).1

/-- A node of a known role has one create call in its course, at the start. -/
theorem creates_course (h : spec.role.isKnown = true) :
    ∃ method, method.role = spec.role
      ∧ (course settings provider label spec).calls.filter (·.2.isCreate)
        = [(0, .create method (request label spec))] := by
  obtain ⟨method, hrole, hevents | ⟨since, later, hevents, hlater⟩⟩ :=
    events_course_of_known settings provider label h
  · refine ⟨method, hrole, ?_⟩
    rw [Course.calls_eq, hevents]
    rfl
  · refine ⟨method, hrole, ?_⟩
    have hnone : (Event.calls later).filter (·.2.isCreate) = [] := by
      rw [List.filter_eq_nil_iff]
      intro entry hentry
      obtain ⟨⟨time, event⟩, hevent, hcall⟩ := List.mem_filterMap.mp hentry
      have hcreate := hlater _ hevent
      cases event with
      | called call =>
        cases hcall
        simpa [Event.call] using hcreate
      | succeeded call => exact nomatch hcall
    rw [Course.calls_eq, hevents]
    show (0, Call.create method (request label spec))
      :: (Event.calls later).filter (·.2.isCreate) = _
    rw [hnone]

variable {settings provider label}

/-- A call on a created node comes after the success of the node's create call. -/
theorem created_of_call {before after : List (Nat × Event)} {time : Nat} {call : Call}
    (h : (course settings provider label spec).events = before ++ (time, .called call) :: after)
    (hcall : call.isCreate = false) :
    ∃ since method, (since, .succeeded (.create method (request label spec))) ∈ before := by
  have hknown : spec.role.isKnown = true := by
    by_contra hunknown
    rw [events_course_of_unknown _ _ _ (Bool.not_eq_true _ ▸ hunknown)] at h
    simp at h
  obtain ⟨method, -, hevents⟩ :=
    events_course_of_known settings provider label hknown
  have hhead : (course settings provider label spec).events.head?
      = some (0, .called (.create method (request label spec))) := by
    rcases hevents with hevents | ⟨_, _, hevents, -⟩
    · rw [hevents]
      rfl
    · rw [hevents]
      rfl
  rw [h] at hhead hevents
  cases before with
  | nil =>
    -- The first event is a create call, so it is not this call.
    cases hhead
    exact nomatch hcall
  | cons first before =>
    rcases hevents with hevents | ⟨since, later, hevents, -⟩
    · simp at hevents
    · cases before with
      | nil => simp at hevents
      | cons second before =>
        simp only [List.cons_append, List.cons.injEq] at hevents
        refine ⟨since, method, ?_⟩
        rw [← hevents.2.1]
        simp

/-- Create calls come at time 0. -/
theorem time_of_create {time : Nat} {method : CreateMethod} {asked : CreateRequest}
    (h : (time, .called (.create method asked)) ∈ (course settings provider label spec).events) :
    time = 0 := by
  have hknown : spec.role.isKnown = true := by
    by_contra hunknown
    rw [events_course_of_unknown _ _ _ (Bool.not_eq_true _ ▸ hunknown)] at h
    exact nomatch h
  have hmem : (time, .create method asked)
      ∈ (course settings provider label spec).calls.filter (·.2.isCreate) :=
    List.mem_filter.mpr ⟨List.mem_filterMap.mpr ⟨_, h, rfl⟩, rfl⟩
  obtain ⟨_, -, hcreates⟩ :=
    creates_course settings provider label hknown
  rw [hcreates, List.mem_singleton] at hmem
  exact congrArg Prod.fst hmem

end

end NodeRun

/-- What a provider has seen of the tasks for some nodes. -/
structure Crew.EachAlone (settings : Settings) (provider : Provider) (label : String)
    (specs : List NodeSpec) (crew : Crew) : Prop where
  /-- For a node of a known role it has got one create call, through the method of the role, that
  asks for this node. -/
  known : ∀ (place : Nat) (spec : NodeSpec), specs[place]? = some spec →
    spec.role.isKnown = true →
    ∃ method, method.role = spec.role
      ∧ (crew.calls place).filter (·.2.isCreate)
        = [(0, .create method
            { name := spec.name, image := spec.image, label, mounts := spec.mounts })]
  /-- For a node of an unknown role it has got no call at all. -/
  unknown : ∀ (place : Nat) (spec : NodeSpec), specs[place]? = some spec →
    spec.role.isKnown = false → crew.calls place = []
  /-- There are no calls but those for the nodes. -/
  noMore : ∀ place, specs.length ≤ place → crew.calls place = []
  /-- Before any other call for a node, the create call for this node has succeeded. -/
  created : ∀ (place : Nat) (spec : NodeSpec), specs[place]? = some spec →
    ∀ before time call after, crew.events place = before ++ (time, .called call) :: after →
      call.isCreate = false →
      ∃ since method, (since, .succeeded (.create method (NodeRun.request label spec))) ∈ before
  /-- The calls for a node are those of every run that is for this node alone. -/
  alone : ∀ (place : Nat) (spec : NodeSpec), specs[place]? = some spec →
    ∀ schedule : List Move,
      (∀ task ∈ ((Crew.start [NodeRun.course settings provider label spec]).run schedule).tasks,
        task.ended = true) →
      crew.calls place
        = ((Crew.start [NodeRun.course settings provider label spec]).run schedule).calls 0

/-- Along an order of moves, the clock stands at 0 with every move that makes a create call. -/
def Crew.CreatesAtStart (courses : List (Course ReadyNode)) (order : List (Nat × Nat)) : Prop :=
  ∀ before time index after, order = before ++ (time, index) :: after →
    ∀ due method request,
      ((along courses before).toCome index).head? = some (due, .called (.create method request)) →
      due = 0 ∧ ((along courses before).moveTask index).clock = 0

namespace Provisioning

section
variable (settings : Settings) (provider : Provider) (label : String) (specs : List NodeSpec)

theorem eachAlone_of_ended {schedule : List Move}
    (hended : ∀ task ∈ ((Crew.start (specs.map (NodeRun.course settings provider label))).run
      schedule).tasks, task.ended = true) :
    Crew.EachAlone settings provider label specs
      ((Crew.start (specs.map (NodeRun.course settings provider label))).run schedule) := by
  have hcourse : ∀ (place : Nat) (spec : NodeSpec), specs[place]? = some spec →
      (specs.map (NodeRun.course settings provider label))[place]?
        = some (NodeRun.course settings provider label spec) := by
    intro place spec hspec
    rw [List.getElem?_map, hspec]
    rfl
  have hcalls := fun place => Crew.calls_of_ended _ _ place hended
  refine ⟨?_, ?_, ?_, ?_, ?_⟩
  · intro place spec hspec hknown
    rw [hcalls, hcourse place spec hspec]
    exact NodeRun.creates_course settings provider label hknown
  · intro place spec hspec hunknown
    rw [hcalls, hcourse place spec hspec]
    show (NodeRun.course settings provider label spec).calls = []
    rw [Course.calls_eq, NodeRun.events_course_of_unknown _ _ _ hunknown]
    rfl
  · intro place hplace
    rw [hcalls, List.getElem?_eq_none (by rwa [List.length_map])]
    rfl
  · intro place spec hspec before time call after hevents hcall
    rw [Crew.events_of_ended _ _ place hended, hcourse place spec hspec] at hevents
    exact NodeRun.created_of_call hevents hcall
  · intro place spec hspec schedule hover
    rw [hcalls, hcourse place spec hspec, Crew.calls_of_ended _ _ 0 hover]
    rfl

/-- On the virtual clock no node waits for another one to be created. -/
theorem createsAtStart {order : List (Nat × Nat)}
    (h : Crew.Timely (specs.map (NodeRun.course settings provider label)) order) :
    Crew.CreatesAtStart (specs.map (NodeRun.course settings provider label)) order := by
  rintro before time index after rfl due method request hnext
  obtain ⟨course, hcourse, htime⟩ := h.next
  have htask := Crew.tasks_along (specs.map (NodeRun.course settings provider label)) before index
  rw [hcourse, Option.map_some] at htask
  have htoCome := Crew.toCome_of_task htask
  obtain ⟨later, hdrop⟩ := List.head?_eq_some_iff.mp hnext
  rw [htoCome] at hdrop
  have hdue : due = time := Option.some.inj ((Crew.times_of_event hdrop).symm.trans htime)
  have hzero : due = 0 := by
    obtain ⟨spec, -, rfl⟩ := List.mem_map.mp (List.mem_of_getElem? hcourse)
    have hmem : (due, .called (.create method request))
        ∈ (NodeRun.course settings provider label spec).events := by
      refine List.mem_of_mem_drop (i := before.countP (·.2 = index)) ?_
      rw [show (NodeRun.course settings provider label spec).events.drop _ = _ from hdrop]
      exact List.mem_cons_self
    exact NodeRun.time_of_create hmem
  -- Up to the move the run is on time, so the clock is not past the time of the move.
  have hclock := (h.onTime (Crew.dated_of_isFor fun spec _ =>
    NodeRun.isFor_course settings provider label spec) h.le_of_mem_before).clock
  refine ⟨hzero, ?_⟩
  rw [(Crew.moveTask_next htask htime).1]
  omega

/-- After every schedule that brings all tasks to their end, a provider has seen of each node what
it would have seen of it alone. That is so on the virtual clock, too, in whatever order the tasks
move that move at one time, and there all create calls are made at time 0. The crew of a run goes
along one of these orders. -/
theorem eachAlone_run :
    (∀ schedule : List Move,
        (∀ task ∈ ((Crew.start (specs.map (NodeRun.course settings provider label))).run
          schedule).tasks, task.ended = true) →
        Crew.EachAlone settings provider label specs
          ((Crew.start (specs.map (NodeRun.course settings provider label))).run schedule))
      ∧ (∀ order, Crew.Timely (specs.map (NodeRun.course settings provider label)) order →
        Crew.EachAlone settings provider label specs
            (Crew.along (specs.map (NodeRun.course settings provider label)) order)
          ∧ Crew.CreatesAtStart (specs.map (NodeRun.course settings provider label)) order)
      ∧ ∃ order, Crew.Timely (specs.map (NodeRun.course settings provider label)) order
        ∧ crew settings provider label specs
          = Crew.along (specs.map (NodeRun.course settings provider label)) order := by
  refine ⟨fun schedule hended => eachAlone_of_ended settings provider label specs hended, ?_,
    _, timely_agenda settings provider label specs, crew_eq_along settings provider label specs⟩
  intro order horder
  exact ⟨eachAlone_of_ended settings provider label specs horder.ended,
    createsAtStart settings provider label specs horder⟩

end

end Provisioning
end ClusterProvision
