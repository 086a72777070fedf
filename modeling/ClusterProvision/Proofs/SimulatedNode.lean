import ClusterProvision.Proofs.Course
import ClusterProvision.Simulation.Basic

/-!
# `ClusterProvision.Proofs.SimulatedNode`: what becomes of a simulated node

A simulated node takes every step at once, except that of its fault. So two things about getting
it ready do not depend on when that starts: whether it gets done, and how often it loads images.
`Timed.Settles` says this of any work. Each kind of step has a lemma for it, and the steps for a
node are put together in `Simulation.passes_run`.

What comes of the whole work is `Simulation.Foreseen`:

* The node gets ready if its role is known and it has at most a fault that is harmless: with its
  proxy if no proxy is needed, or with its images if they can be done without.
* It is created if its role is known and its fault is not the creation.
* Its images are loaded once or not at all.

`Simulation.foreseen_course` proves this for every node of every simulated provider.
-/

set_option autoImplicit false

namespace ClusterProvision

variable {α β : Type}

/-- The result of work that has got done. -/
def Ending.result? : Ending α → Option α
  | .done a => some a
  | .failed _ => none
  | .panicked => none

/-- How often images have been loaded among events. -/
def Event.loads (events : List (Nat × Event)) : Nat :=
  (events.map Prod.snd).count (.succeeded .loadImages)

/-- The role and the name of the node that an event says has been created. -/
def Event.created? : Event → Option (Role × String)
  | .succeeded (.create method request) => some (method.role, request.name)
  | _ => none

theorem Event.created?_of_not_create {event : Event} (h : event.call.isCreate = false) :
    event.created? = none := by
  cases event with
  | called call => rfl
  | succeeded call =>
    cases call with
    | create method request => exact nomatch h
    | _ => rfl

theorem Event.loads_append (first second : List (Nat × Event)) :
    loads (first ++ second) = loads first + loads second := by
  simp [loads]

namespace Timed

/-- Work that comes to the same result whenever it starts, or to none, and that loads images the
same number of times. -/
structure Settles (work : Timed α) (result : Option α) (loads : Nat) : Prop where
  result : ∀ now, (work now).ending.result? = result
  loads : ∀ now, Event.loads (work now).events = loads

/-! ### Steps -/

theorem settles_pure (a : α) : Settles (pure a) (some a) 0 := ⟨fun _ => rfl, fun _ => rfl⟩

theorem settles_fail (failure : Failure) : Settles (fail failure : Timed α) none 0 :=
  ⟨fun _ => rfl, fun _ => rfl⟩

theorem settles_log (entry : Log) : Settles (log entry) (some ()) 0 :=
  ⟨fun _ => rfl, fun _ => rfl⟩

theorem settles_call_of_success (c : Call) {reply : Reply} (h : reply.outcome = .success) :
    Settles (call c reply) (some (.ok ())) (if c = .loadImages then 1 else 0) := by
  constructor
  · intro now
    rw [call_of_success h]
    rfl
  · intro now
    rw [call_of_success h]
    simp [Event.loads, List.count_cons]

theorem settles_call_of_failure (c : Call) {reply : Reply} {source : ErrorChain}
    (h : reply.outcome = .failure source) : Settles (call c reply) (some (.error source)) 0 := by
  constructor
  · intro now
    rw [call_of_failure h]
    rfl
  · intro now
    rw [call_of_failure h]
    simp [Event.loads]

theorem settles_call_of_panic (c : Call) {reply : Reply} (h : reply.outcome = .panic) :
    Settles (call c reply) none 0 := by
  constructor
  · intro now
    rw [call_of_panic h]
    rfl
  · intro now
    rw [call_of_panic h]
    simp [Event.loads]

/-- When probes are answered at once and always in the same way, the first answer is the result,
if there is time for it. -/
theorem ready_poll {probing : Probing} {ready : Bool}
    (h : ∀ made, probing.reply made = .answer ready 0) {deadline now rounds : Nat}
    (htime : now < deadline) (hrounds : 0 < rounds) (interval : Nat) (made : List Probe) :
    (Readiness.poll probing deadline interval rounds made now).ready = ready := by
  -- A first answer that is not `true` is followed by other ones, as many as there are rounds.
  induction rounds generalizing made now with
  | zero => exact absurd hrounds (Nat.lt_irrefl 0)
  | succ rounds ih =>
    have hearly : ¬ deadline ≤ now := by omega
    have hcut : ¬ deadline < now := by omega
    cases ready with
    | true => simp [Readiness.poll, h, hearly, hcut]
    | false =>
      simp only [Readiness.poll, h, hearly, hcut, Nat.add_zero, if_false, Bool.false_eq_true]
      cases rounds with
      | zero => rfl
      | succ rounds =>
        by_cases hlater : now + min interval (deadline - now) < deadline
        · exact ih hlater (Nat.succ_pos _) _
        · rw [Readiness.poll, if_pos (Nat.not_lt.mp hlater)]

theorem settles_awaitReady {probing : Probing} {ready : Bool}
    (h : ∀ made, probing.reply made = .answer ready 0) {timeout : Nat} (htimeout : 0 < timeout)
    (interval : Nat) : Settles (awaitReady probing timeout interval) (some ready) 0 := by
  constructor
  · intro now
    exact congrArg some (ready_poll h (by omega) (by omega) interval [])
  · intro now
    -- The events are probes.
    unfold Event.loads awaitReady
    rw [List.count_eq_zero]
    simp

/-! ### Work that follows work -/

theorem Settles.bind {work : Timed α} {more : α → Timed β} {a : α} {result : Option β} {m n : Nat}
    (h : Settles work (some a) m) (hmore : Settles (more a) result n) :
    Settles (work >>= more) result (m + n) := by
  have hdone : ∀ now, (work now).ending = .done a := by
    intro now
    have hresult := h.result now
    cases hending : (work now).ending with
    | done other =>
      rw [hending] at hresult
      rw [Option.some.inj hresult]
    | failed failure => rw [hending] at hresult; exact nomatch hresult
    | panicked => rw [hending] at hresult; exact nomatch hresult
  constructor
  · intro now
    rw [bind_of_done (hdone now)]
    exact hmore.result _
  · intro now
    rw [bind_of_done (hdone now)]
    show Event.loads ((work now).events ++ _) = m + n
    rw [Event.loads_append, h.loads, hmore.loads]

/-- Work that loads no images leaves the number as it is. -/
theorem Settles.after {work : Timed α} {more : α → Timed β} {a : α} {result : Option β} {n : Nat}
    (h : Settles work (some a) 0) (hmore : Settles (more a) result n) :
    Settles (work >>= more) result n := by
  have hall := h.bind hmore
  rwa [Nat.zero_add] at hall

theorem Settles.bind_none {work : Timed α} {m : Nat} (h : Settles work none m)
    (more : α → Timed β) : Settles (work >>= more) none m := by
  constructor
  · intro now
    have hresult := h.result now
    cases hending : (work now).ending with
    | done other => rw [hending] at hresult; exact nomatch hresult
    | failed failure => rw [bind_of_failed hending]; rfl
    | panicked => rw [bind_of_panicked hending]; rfl
  · intro now
    have hresult := h.result now
    cases hending : (work now).ending with
    | done other => rw [hending] at hresult; exact nomatch hresult
    | failed failure => rw [bind_of_failed hending, ← h.loads now]
    | panicked => rw [bind_of_panicked hending, ← h.loads now]

/-- Work without a result of its own that gets done exactly if `ready`. -/
def Passes (work : Timed Unit) (ready : Bool) (loads : Nat) : Prop :=
  Settles work (if ready then some () else none) loads

theorem Passes.done_iff {work : Timed Unit} {ready : Bool} {n : Nat} (h : Passes work ready n)
    (now : Nat) : (work now).ending = .done () ↔ ready = true := by
  have hresult := h.result now
  cases hending : (work now).ending <;> cases ready <;> simp_all [Ending.result?]

theorem Passes.congr {work : Timed Unit} {first second : Bool} {m n : Nat}
    (h : Passes work first m) (hready : first = second) (hloads : m = n) :
    Passes work second n := by
  rw [← hready, ← hloads]
  exact h

theorem Passes.bind {work more : Timed Unit} {first second : Bool} {m n : Nat}
    (h : Passes work first m) (hmore : Passes more second n) :
    Passes (work >>= fun _ => more) (first && second) (if first then m + n else m) := by
  cases first with
  | true => exact Settles.bind h hmore
  | false => exact Settles.bind_none h _

end Timed

open Timed

namespace Fixup

/-- A step passes if its call succeeds. -/
theorem passes_take (node : String) (step : Step) {c : Call} (hc : c ≠ .loadImages)
    (reply : Reply) : Passes (take node step c reply) (decide (reply.outcome = .success)) 0 := by
  unfold Passes take
  cases houtcome : reply.outcome with
  | success =>
    have hcall := settles_call_of_success c houtcome
    rw [if_neg hc] at hcall
    exact (settles_log _).after (hcall.after (settles_pure ()))
  | failure source =>
    exact (settles_log _).after ((settles_call_of_failure c houtcome).after
      ((settles_log _).after (settles_fail _)))
  | panic =>
    exact (settles_log _).after ((settles_call_of_panic c houtcome).bind_none _)

theorem passes_awaitRuntime {settings : Settings} (htime : 0 < settings.readyTimeout)
    (node : String) {probing : Probing} {ready : Bool}
    (h : ∀ made, probing.reply made = .answer ready 0) :
    Passes (awaitRuntime settings node probing) ready 0 := by
  have hwait := settles_awaitReady h htime settings.pollInterval
  cases ready with
  | true => exact (settles_log _).after (hwait.after (settles_pure ()))
  | false =>
    exact (settles_log _).after (hwait.after ((settles_log _).after (settles_fail _)))

theorem passes_loadImages_of_success (settings : Settings) (node : String) {reply : Reply}
    (h : reply.outcome = .success) : Passes (loadImages settings node reply) true 1 := by
  have hcall : Settles (call .loadImages reply) (some (.ok ())) 1 := settles_call_of_success _ h
  exact (settles_log _).after (hcall.bind (n := 0) (settles_pure ()))

/-- Images that cannot be loaded are done without under one policy only. -/
theorem passes_loadImages_of_failure (settings : Settings) (node : String) {reply : Reply}
    {source : ErrorChain} (h : reply.outcome = .failure source) :
    Passes (loadImages settings node reply) (decide (settings.imagePolicy = .bestEffort)) 0 := by
  have hcall := settles_call_of_failure .loadImages h
  unfold Passes loadImages
  cases settings.imagePolicy with
  | bestEffort => exact (settles_log _).after (hcall.after (settles_log _))
  | required => exact (settles_log _).after (hcall.after (settles_fail _))

end Fixup

namespace Simulation

/-! ### Faults -/

section
variable (settings : Settings) (simulation : Simulation)

/-- A fault that does not keep a created node from getting ready: one with a proxy that is not
needed, or with images that can be done without. -/
def Harmless (fault : SimulatedFault) : Prop :=
  (fault = .step .setProxy ∧ simulation.needProxy = false)
    ∨ (fault = .step .loadImages ∧ settings.imagePolicy = .bestEffort)

instance (fault : SimulatedFault) : Decidable (simulation.Harmless settings fault) :=
  inferInstanceAs (Decidable (_ ∨ _))

/-- The role of a node is known, and the fault that it has, if it has one, is harmless. -/
def GetsReady (spec : NodeSpec) : Prop :=
  spec.role.isKnown = true
    ∧ ∀ fault ∈ simulation.fault? spec.name, simulation.Harmless settings fault

instance (spec : NodeSpec) : Decidable (simulation.GetsReady settings spec) :=
  inferInstanceAs (Decidable (_ ∧ _))

/-- The role of a node is known, and its fault is not the creation. -/
def Creates (spec : NodeSpec) : Prop :=
  spec.role.isKnown = true ∧ simulation.fault? spec.name ≠ some .creation

instance (spec : NodeSpec) : Decidable (simulation.Creates spec) :=
  inferInstanceAs (Decidable (_ ∧ _))

/-- The role of a node is known, and it has no fault, or one with a proxy that is not needed. -/
def LoadsImages (spec : NodeSpec) : Prop :=
  spec.role.isKnown = true
    ∧ (simulation.fault? spec.name = none
      ∨ (simulation.fault? spec.name = some (.step .setProxy) ∧ simulation.needProxy = false))

instance (spec : NodeSpec) : Decidable (simulation.LoadsImages spec) :=
  inferInstanceAs (Decidable (_ ∧ _))

end

/-! ### Getting a simulated node ready -/

section
variable (settings : Settings) (simulation : Simulation) (node : String)

theorem passes_take (step : Step) {c : Call} (hc : c ≠ .loadImages) :
    Passes (Fixup.take node step c { outcome := stepOutcome (simulation.fault? node) step })
      (decide (simulation.fault? node ≠ some (.step step))) 0 := by
  have htake := Fixup.passes_take node step hc
    { outcome := stepOutcome (simulation.fault? node) step }
  by_cases hfault : simulation.fault? node = some (.step step)
  · simpa [stepOutcome, hfault] using htake
  · simpa [stepOutcome, hfault] using htake

theorem passes_loadImages :
    Passes (Fixup.loadImages settings node
        { outcome := stepOutcome (simulation.fault? node) .loadImages })
      (decide (simulation.fault? node = some (.step .loadImages) →
        settings.imagePolicy = .bestEffort))
      (if simulation.fault? node = some (.step .loadImages) then 0 else 1) := by
  by_cases hfault : simulation.fault? node = some (.step .loadImages)
  · rw [show stepOutcome (simulation.fault? node) .loadImages = _ from if_pos hfault]
    simp only [hfault, forall_const, if_true]
    exact Fixup.passes_loadImages_of_failure settings node rfl
  · simp only [hfault, false_imp_iff, decide_true, if_false]
    exact Fixup.passes_loadImages_of_success settings node (if_neg hfault)

variable {settings simulation node}

/-- Getting a created node ready passes unless its fault does harm. Images are loaded if neither
that step nor one before it fails. -/
theorem passes_run (htime : 0 < settings.readyTimeout)
    (hcreated : simulation.fault? node ≠ some .creation) :
    Passes (Fixup.run settings simulation.needProxy node (simulation.behaviour node))
      (decide (∀ fault ∈ simulation.fault? node, simulation.Harmless settings fault))
      (if simulation.fault? node = none
          ∨ (simulation.fault? node = some (.step .setProxy) ∧ simulation.needProxy = false)
        then 1 else 0) := by
  have hmounts := simulation.passes_take node .fixMounts (c := .fixMounts) nofun
  have hproxy := simulation.passes_take node .setProxy (c := .setProxy) nofun
  have hstart := simulation.passes_take node .signalStart (c := .signalStart) nofun
  have hwait : Passes (Fixup.awaitRuntime settings node (simulation.behaviour node).probing)
      (isReady (simulation.fault? node)) 0 := Fixup.passes_awaitRuntime htime node fun _ => rfl
  have hrest := hstart.bind (hwait.bind (simulation.passes_loadImages settings node))
  -- What is left is to compare the steps that pass with the faults that are harmless.
  cases hneed : simulation.needProxy with
  | false =>
    refine Passes.congr (hmounts.bind hrest) ?_ ?_
    all_goals
      rcases hfault : simulation.fault? node with _ | _ | step | _
      · simp [isReady]
      · exact absurd hfault hcreated
      · cases step <;> simp [isReady, Harmless, hneed]
      · simp [isReady, Harmless]
  | true =>
    refine Passes.congr (hmounts.bind (hproxy.bind hrest)) ?_ ?_
    all_goals
      rcases hfault : simulation.fault? node with _ | _ | step | _
      · simp [isReady]
      · exact absurd hfault hcreated
      · cases step <;> simp [isReady, Harmless, hneed]
      · simp [isReady, Harmless]

/-! ### The task for a node -/

/-- What comes of the task for a node. -/
structure Foreseen (settings : Settings) (simulation : Simulation) (spec : NodeSpec)
    (course : Course ReadyNode) : Prop where
  ready : (∃ node, course.ending = .done node) ↔ simulation.GetsReady settings spec
  created : (course.events.map Prod.snd).filterMap Event.created?
    = if simulation.Creates spec then [(spec.role, spec.name)] else []
  loads : Event.loads course.events = if simulation.LoadsImages spec then 1 else 0

section
variable {label : String} {spec : NodeSpec}

theorem foreseen_of_unknown (hunknown : spec.role.isKnown = false) :
    simulation.Foreseen settings spec
      (NodeRun.course settings simulation.provider label spec) := by
  unfold NodeRun.course
  rw [NodeRun.provision_of_unknown hunknown]
  constructor
  · simp [NodeRun.ofWork, GetsReady, hunknown]
  · simp [NodeRun.ofWork, Creates, hunknown]
  · simp [NodeRun.ofWork, LoadsImages, hunknown, Event.loads]

theorem foreseen_of_not_created (hknown : spec.role.isKnown = true)
    (hfault : simulation.fault? spec.name = some .creation) :
    simulation.Foreseen settings spec
      (NodeRun.course settings simulation.provider label spec) := by
  obtain ⟨method, hmethod, -⟩ := Role.exists_createMethod hknown
  have hfails : (simulation.provider.behaviour spec.name).create.outcome ≠ .success := by
    simp [provider, behaviour, createReply, hfault]
  have hevents : (NodeRun.provision settings simulation.provider label spec 0).events
      = [(0, .called (.create method (NodeRun.request label spec)))] :=
    (NodeRun.provision_of_not_created hmethod hfails).1
  have hending : (NodeRun.provision settings simulation.provider label spec 0).ending ≠ .done () :=
    (NodeRun.provision_of_not_created hmethod hfails).2
  unfold NodeRun.course
  constructor
  · simp [NodeRun.ofWork_done, hending, GetsReady, Harmless, hfault]
  · simp [NodeRun.ofWork, hevents, Event.created?, Creates, hfault]
  · simp [NodeRun.ofWork, hevents, Event.loads, LoadsImages, hfault]

theorem foreseen_of_created (htime : 0 < settings.readyTimeout) (hknown : spec.role.isKnown = true)
    (hcreated : simulation.fault? spec.name ≠ some .creation) :
    simulation.Foreseen settings spec
      (NodeRun.course settings simulation.provider label spec) := by
  obtain ⟨method, hmethod, hrole⟩ := Role.exists_createMethod hknown
  have hsucceeds : (simulation.provider.behaviour spec.name).create.outcome = .success := by
    simp [provider, behaviour, createReply, hcreated]
  have hrun := passes_run htime hcreated
  have hnone := Fixup.createsNone_run settings simulation.needProxy spec.name
    (simulation.behaviour spec.name)
  have hending : (NodeRun.provision settings simulation.provider label spec 0).ending = .done ()
      ↔ ∀ fault ∈ simulation.fault? spec.name, simulation.Harmless settings fault := by
    rw [NodeRun.provision_of_created hmethod hsucceeds]
    exact (hrun.done_iff _).trans decide_eq_true_iff
  -- The create call comes first, and no other one after it.
  have hfirst : ((NodeRun.provision settings simulation.provider label spec 0).events.map
      Prod.snd).filterMap Event.created? = [(spec.role, spec.name)] := by
    rw [NodeRun.provision_of_created hmethod hsucceeds, List.filterMap_map]
    have hlater : ∀ now, (Fixup.run settings simulation.needProxy spec.name
        (simulation.behaviour spec.name) now).events.filterMap (Event.created? ∘ Prod.snd) = [] := by
      intro now
      rw [List.filterMap_eq_nil_iff]
      intro entry hentry
      exact Event.created?_of_not_create (hnone now entry hentry)
    show (method.role, spec.name) :: List.filterMap (Event.created? ∘ Prod.snd) _ = _
    rw [hrole]
    exact congrArg _ (hlater _)
  have hloads : Event.loads (NodeRun.provision settings simulation.provider label spec 0).events
      = if simulation.LoadsImages spec then 1 else 0 := by
    rw [NodeRun.provision_of_created hmethod hsucceeds]
    show Event.loads ([_, _] ++ (Fixup.run settings simulation.needProxy spec.name
      (simulation.behaviour spec.name) _).events) = _
    rw [Event.loads_append, hrun.loads]
    simp [Event.loads, LoadsImages, hknown]
  unfold NodeRun.course
  constructor
  · simp [NodeRun.ofWork_done, hending, GetsReady, hknown]
  · simp [NodeRun.ofWork, hfirst, Creates, hknown, hcreated]
  · exact hloads

/-- What comes of the task for a node follows from the role of the node and from its fault. -/
theorem foreseen_course (htime : 0 < settings.readyTimeout) (simulation : Simulation)
    (label : String) (spec : NodeSpec) :
    simulation.Foreseen settings spec
      (NodeRun.course settings simulation.provider label spec) := by
  cases hknown : spec.role.isKnown with
  | false => exact foreseen_of_unknown hknown
  | true =>
    by_cases hfault : simulation.fault? spec.name = some .creation
    · exact foreseen_of_not_created hknown hfault
    · exact foreseen_of_created htime hknown hfault

end

end

end Simulation
end ClusterProvision
