import ClusterProvision.Proofs.Refusal

/-!
# `ClusterProvision.Proofs.Reports`: what a run reports about its phase

The journal of a crew has one entry for the return of the collector. Other moves write down
something else or nothing (`Crew.Silent`), so the entry is made with the move that brings the return
and never again (`Crew.journal_of_returned`). A run puts the end of its phase in the place of that
entry, and the start before everything.

`Provisioning.reports_ofCluster` says this of all clusters: one that is rejected is not reported at
all. Any other run reports a start, and, once its result is there, an end that says how it went.
That holds under every schedule. The virtual clock makes one of them.
-/

set_option autoImplicit false

namespace ClusterProvision

/-! ### The return in the journal of a crew -/

/-- Whether an entry says that the result has been returned. -/
def Entry.isReturn : Entry → Bool
  | .returned _ => true
  | _ => false

/-- Whether something that happens in a run is an event of a node's task, and not a report. -/
def Occurrence.isNode : Occurrence → Bool
  | .node .. => true
  | .status _ => false

/-- The report that something which happens in a run is, if it is one. -/
def Occurrence.report? : Occurrence → Option StatusEvent
  | .status event => some event
  | .node .. => none

namespace Crew

/-- From one state of a crew to a later one, no return has been written down. -/
def Silent (crew later : Crew) : Prop :=
  ∃ entries, later.journal = entries ++ crew.journal ∧ ∀ entry ∈ entries, entry.isReturn = false

theorem Silent.refl (crew : Crew) : Silent crew crew := by
  exact ⟨[], rfl, by simp⟩

theorem Silent.trans {first second third : Crew} (h : Silent first second)
    (hnext : Silent second third) : Silent first third := by
  obtain ⟨entries, hjournal, hentries⟩ := h
  obtain ⟨more, hmoreJournal, hmore⟩ := hnext
  refine ⟨more ++ entries, ?_, ?_⟩
  · rw [hmoreJournal, hjournal, List.append_assoc]
  · intro entry hentry
    rcases List.mem_append.mp hentry with hentry | hentry
    · exact hmore entry hentry
    · exact hentries entry hentry

theorem silent_moveTask (crew : Crew) (index : Nat) : Silent crew (crew.moveTask index) := by
  rcases crew.moveTask_cases index with ⟨he, -⟩ | ⟨task, -, -, -, he⟩
    | ⟨task, time, event, rest, -, -, he⟩ | ⟨task, -, -, -, he⟩
  · rw [he]
    exact .refl crew
  · rw [he]
    exact .refl crew
  · exact ⟨[.event index time event], by rw [he]; rfl, by simp [Entry.isReturn]⟩
  · exact ⟨[.ended index task.finish], by rw [he]; rfl, by simp [Entry.isReturn]⟩

/-- A move that does not bring the return writes none down. -/
theorem silent_move {crew : Crew} {move : Move}
    (h : (crew.move move).result.isSome = true → crew.result.isSome = true) :
    Silent crew (crew.move move) := by
  cases move with
  | task index => exact crew.silent_moveTask index
  | collect =>
    have hsame : (crew.fanIn.result.isNone && crew.fanIn.collect.result.isSome) = false := by
      have hreturns : crew.fanIn.collect.result.isSome = true → crew.fanIn.result.isSome = true := h
      cases hresult : crew.fanIn.result with
      | none => simpa [hresult] using hreturns
      | some result => rfl
    exact ⟨[], by simp [move, moveCollector, hsame], by simp⟩

/-- Moves among which there is none that brings the return write none down. -/
theorem silent_run {crew : Crew} {schedule : List Move}
    (h : (crew.run schedule).result.isSome = true → crew.result.isSome = true) :
    Silent crew (crew.run schedule) := by
  induction schedule generalizing crew with
  | nil => exact .refl crew
  | cons move schedule ih =>
    rw [run_cons] at h ⊢
    refine (silent_move fun hmoved => ?_).trans (ih fun hreturned => ?_)
    · -- What has been returned with the first move stays.
      rw [result_run_of_isSome hmoved] at h
      exact h hmoved
    · have hsome := h hreturned
      rw [result_move_of_isSome hsome]
      exact hsome

/-- If the collector returns in the course of a schedule, it is with one of its own moves. -/
theorem exists_return {crew : Crew} {schedule : List Move} (hwaits : crew.result = none)
    (hreturned : (crew.run schedule).result.isSome = true) :
    ∃ before after, schedule = before ++ .collect :: after ∧ (crew.run before).result = none
      ∧ (crew.run before).moveCollector.result.isSome = true := by
  induction schedule generalizing crew with
  | nil =>
    rw [run_nil, hwaits] at hreturned
    cases hreturned
  | cons move schedule ih =>
    cases hresult : (crew.move move).result with
    | none =>
      obtain ⟨before, after, rfl, hbefore, hafter⟩ := ih hresult hreturned
      exact ⟨move :: before, after, rfl, hbefore, hafter⟩
    | some result =>
      cases move with
      | task index =>
        rw [Crew.move, result_moveTask, hwaits] at hresult
        cases hresult
      | collect =>
        have hcollected : crew.moveCollector.result = some result := hresult
        exact ⟨[], schedule, rfl, hwaits, by rw [run_nil, hcollected]; rfl⟩

section
variable {courses : List (Course ReadyNode)} {schedule : List Move}

/-- While the collector waits, no return has been written down. -/
theorem journal_of_waiting (hwaits : ((Crew.start courses).run schedule).result = none) :
    ∀ entry ∈ ((Crew.start courses).run schedule).journal, entry.isReturn = false := by
  have hsilent : Silent (Crew.start courses) ((Crew.start courses).run schedule) := by
    refine silent_run fun hreturned => ?_
    rw [hwaits] at hreturned
    exact nomatch hreturned
  obtain ⟨entries, hjournal, hentries⟩ := hsilent
  cases courses with
  | nil =>
    -- Without courses the collector has returned from the start.
    have hstart : (Crew.start []).result.isSome = true := rfl
    rw [result_run_of_isSome hstart] at hwaits
    exact nomatch hwaits
  | cons course courses =>
    rw [hjournal, show (Crew.start (course :: courses)).journal = [] from rfl, List.append_nil]
    exact hentries

/-- If the collector has returned, it has done so after some first moves, and has just written it
down then. -/
theorem exists_first_return (hreturned : ((Crew.start courses).run schedule).result.isSome = true) :
    ∃ first second time earlier, schedule = first ++ second
      ∧ ((Crew.start courses).run first).result.isSome = true
      ∧ ((Crew.start courses).run first).journal = .returned time :: earlier
      ∧ ∀ entry ∈ earlier, entry.isReturn = false := by
  cases hcourses : courses with
  | nil => exact ⟨[], schedule, 0, [], rfl, rfl, rfl, by simp⟩
  | cons course others =>
    rw [← hcourses]
    have hstart : (Crew.start courses).result = none := by
      rw [hcourses]
      rfl
    obtain ⟨before, after, rfl, hwaits, hreturns⟩ := exists_return hstart hreturned
    refine ⟨before ++ [.collect], after, ((Crew.start courses).run before).clock,
      ((Crew.start courses).run before).journal, ?_, ?_, ?_, journal_of_waiting hwaits⟩
    · rw [List.append_assoc]
      rfl
    · rw [run_append]
      exact hreturns
    · rw [run_append]
      exact journal_moveCollector hwaits hreturns

/-- Once the collector has returned, that has been written down once: at the end of the first moves,
with which it has returned. -/
theorem journal_of_returned {result : Except Failure (List ReadyNode)}
    (hresult : ((Crew.start courses).run schedule).result = some result) :
    ∃ first second time earlier later, schedule = first ++ second
      ∧ ((Crew.start courses).run first).result = some result
      ∧ ((Crew.start courses).run first).journal = .returned time :: earlier
      ∧ ((Crew.start courses).run schedule).journal = later ++ .returned time :: earlier
      ∧ (∀ entry ∈ earlier, entry.isReturn = false) ∧ ∀ entry ∈ later, entry.isReturn = false := by
  obtain ⟨first, second, time, earlier, rfl, hreturned, hjournal, hearlier⟩ :=
    exists_first_return (by rw [hresult]; rfl)
  have hsilent : Silent ((Crew.start courses).run first)
      (((Crew.start courses).run first).run second) := silent_run fun _ => hreturned
  obtain ⟨later, hlaterJournal, hlater⟩ := hsilent
  rw [run_append] at hresult ⊢
  rw [result_run_of_isSome hreturned] at hresult
  rw [hjournal] at hlaterJournal
  exact ⟨first, second, time, earlier, later, rfl, hresult, hjournal, hlaterJournal, hearlier,
    hlater⟩

end

end Crew

/-! ### The reports of a run -/

namespace Provisioning

/-- The reports at the end of a phase, once the result is there. -/
def closing (phase : Phase) : Except Failure (List ReadyNode) → List StatusEvent
  | .ok _ => phase.close true
  | .error _ => phase.drop

/-- The crew for planned nodes after any schedule. -/
def crewAfter (settings : Settings) (provider : Provider) (label : String)
    (specs : List NodeSpec) (schedule : List Move) : Crew :=
  (Crew.start (specs.map (NodeRun.course settings provider label))).run schedule

/-- The journal of a run for planned nodes, with its reports, after any schedule. -/
def journalAfter (settings : Settings) (provider : Provider) (label : String)
    (specs : List NodeSpec) (schedule : List Move) : List Occurrence :=
  let crew := crewAfter settings provider label specs schedule
  let (opening, phase) := Phase.start (phaseLabel specs.length)
  opening.map .status
    ++ crew.journal.reverse.flatMap
      (occurrences (specs.map NodeSpec.name) (closing phase (outcome crew)))

/-- A phase that has been started ends with one report, which says how it went. -/
theorem closing_start (text : String) (result : Except Failure (List ReadyNode)) :
    ∃ success, closing (Phase.start text).2 result = [.finish text success]
      ∧ (success = true ↔ ∃ nodes, result = .ok nodes) := by
  cases result with
  | ok nodes => exact ⟨true, rfl, by simp⟩
  | error failure => exact ⟨false, rfl, by simp⟩

/-- What is written down about the tasks has no reports. -/
theorem isNode_of_mem_occurrences {names : List String} {reports : List StatusEvent}
    {entries : List Entry} (h : ∀ entry ∈ entries, entry.isReturn = false) :
    ∀ occurrence ∈ entries.reverse.flatMap (occurrences names reports),
      occurrence.isNode = true := by
  intro occurrence hoccurrence
  obtain ⟨entry, hentry, hmem⟩ := List.mem_flatMap.mp hoccurrence
  cases entry with
  | event task time what =>
    rw [occurrences, List.mem_singleton] at hmem
    rw [hmem]
    rfl
  | ended task time => exact nomatch hmem
  | returned time => exact nomatch h _ (List.mem_reverse.mp hentry)

/-- The label of a phase has a sign for every node. -/
theorem count_phaseLabel (nodes : Nat) : (phaseLabel nodes).toList.count '📦' = nodes := by
  have hwords : "Preparing nodes ".toList.count '📦' = 0 := by decide
  show ("Preparing nodes " ++ String.ofList (List.replicate nodes '📦')).toList.count '📦' = nodes
  rw [String.toList_append, List.count_append, hwords, String.toList_ofList,
    List.count_replicate_self, Nat.zero_add]

/-- A cluster that passes its check has as many nodes as its entries say. -/
theorem length_plan {cluster : Cluster} {name : String} {order : RoleOrder} {specs : List NodeSpec}
    (hvalid : cluster.validate = .ok ()) (hplan : cluster.plan name order = .ok specs) :
    specs.length = (cluster.nodes.map (·.count.toInt.toNat)).sum := by
  rw [Cluster.plan_of_nonneg (Cluster.count_nonneg_of_validate hvalid)] at hplan
  cases hplan
  exact (cluster.wellNamed name order).length

/-- The place of the return among entries is the place of the report. -/
theorem occurrences_of_return (names : List String) (report : StatusEvent) (time : Nat)
    (earlier later : List Entry) :
    (later ++ .returned time :: earlier).reverse.flatMap (occurrences names [report])
      = earlier.reverse.flatMap (occurrences names [report])
        ++ .status report :: later.reverse.flatMap (occurrences names [report]) := by
  simp [occurrences]

section
variable {settings : Settings} {provider : Provider} {label : String} {specs : List NodeSpec}
  {schedule : List Move}

/-- While the collector waits, only the start of the phase has been reported. -/
theorem journalAfter_of_waiting
    (hwaits : (crewAfter settings provider label specs schedule).result = none) :
    ∃ nodes, journalAfter settings provider label specs schedule
        = .status (.start (phaseLabel specs.length)) :: nodes
      ∧ ∀ occurrence ∈ nodes, occurrence.isNode = true :=
  ⟨_, rfl, isNode_of_mem_occurrences (Crew.journal_of_waiting hwaits)⟩

variable {result : Except Failure (List ReadyNode)}

/-- The journal when the collector has returned, with the report for its result. -/
theorem journalAfter_of_result
    (hresult : (crewAfter settings provider label specs schedule).result = some result)
    {report : StatusEvent}
    (hreport : closing (Phase.start (phaseLabel specs.length)).2 result = [report]) :
    journalAfter settings provider label specs schedule
      = .status (.start (phaseLabel specs.length))
        :: (crewAfter settings provider label specs schedule).journal.reverse.flatMap
          (occurrences (specs.map NodeSpec.name) [report]) := by
  rw [← hreport, journalAfter, outcome, hresult]
  rfl

variable (settings provider label specs schedule result)

/-- In a schedule the end of the phase is reported once. That is after some `first` moves, with
which the collector has its `result`, and it is a success if that is a list of nodes. -/
def EndReported : Prop :=
  ∃ first second before after success, schedule = first ++ second
    ∧ (crewAfter settings provider label specs first).result = some result
    ∧ journalAfter settings provider label specs first
      = .status (.start (phaseLabel specs.length))
        :: (before ++ [.status (.finish (phaseLabel specs.length) success)])
    ∧ journalAfter settings provider label specs schedule
      = .status (.start (phaseLabel specs.length))
        :: (before ++ .status (.finish (phaseLabel specs.length) success) :: after)
    ∧ (∀ occurrence ∈ before ++ after, occurrence.isNode = true)
    ∧ (success = true ↔ ∃ nodes, result = .ok nodes)

variable {settings provider label specs schedule result}

theorem endReported_of_returned
    (hresult : (crewAfter settings provider label specs schedule).result = some result) :
    EndReported settings provider label specs schedule result := by
  obtain ⟨first, second, time, earlier, later, hschedule, hfirst, hjournal, hwhole, hearlier,
    hlater⟩ := Crew.journal_of_returned hresult
  obtain ⟨success, hreport, hsuccess⟩ := closing_start (phaseLabel specs.length) result
  have hfirstAfter := journalAfter_of_result hfirst hreport
  have hafter := journalAfter_of_result hresult hreport
  rw [crewAfter, hjournal] at hfirstAfter
  rw [crewAfter, hwhole, occurrences_of_return] at hafter
  refine ⟨first, second, _, _, success, hschedule, hfirst, hfirstAfter.trans ?_, hafter, ?_,
    hsuccess⟩
  · exact congrArg _ (occurrences_of_return _ _ time earlier [])
  · intro occurrence hoccurrence
    rcases List.mem_append.mp hoccurrence with hbefore | hafter
    · exact isNode_of_mem_occurrences hearlier occurrence hbefore
    · exact isNode_of_mem_occurrences hlater occurrence hafter

end

/-! ### Runs for clusters -/

/-- What is reported about the run for a cluster with the nodes `specs`, and when. -/
structure Reported (settings : Settings) (provider : Provider) (cluster : Cluster)
    (name label : String) (specs : List NodeSpec) : Prop where
  /-- No count is negative, so nothing is lost when counts are taken as natural numbers. -/
  counts : ∀ entry ∈ cluster.nodes, 0 ≤ entry.count
  /-- The label of the phase has a package sign for every node that the entries ask for. -/
  packages : (phaseLabel specs.length).toList.count '📦'
    = (cluster.nodes.map (·.count.toInt.toNat)).sum
  /-- Under every schedule: before anything else the start is reported, and nothing more until the
  collector returns. -/
  waiting : ∀ schedule, (crewAfter settings provider label specs schedule).result = none →
    ∃ nodes, journalAfter settings provider label specs schedule
        = .status (.start (phaseLabel specs.length)) :: nodes
      ∧ ∀ occurrence ∈ nodes, occurrence.isNode = true
  /-- Under every schedule: when the collector returns, the end is reported, once and for all. -/
  returned : ∀ schedule result,
    (crewAfter settings provider label specs schedule).result = some result →
      EndReported settings provider label specs schedule result
  /-- The run itself is on the schedule of the virtual clock. -/
  clock :
    let schedule := Crew.byClock (specs.map (NodeRun.course settings provider label))
    (ofCluster settings provider cluster name label).journal
        = journalAfter settings provider label specs schedule
      ∧ (crewAfter settings provider label specs schedule).result
        = some (ofCluster settings provider cluster name label).result
  /-- So it reports two things. -/
  status : ∃ success, (ofCluster settings provider cluster name label).status
      = [.start (phaseLabel specs.length), .finish (phaseLabel specs.length) success]
    ∧ (success = true
      ↔ ∃ nodes, (ofCluster settings provider cluster name label).result = .ok nodes)

/-- A cluster is rejected without a report and without a call, or its run is reported. -/
structure Reports (settings : Settings) (provider : Provider) (cluster : Cluster)
    (name label : String) : Prop where
  rejected : ∀ fault,
    cluster.validate = .error fault ∨ cluster.plan name ⟨settings.roleOrder⟩ = .error fault →
      (∃ other, (ofCluster settings provider cluster name label).result = .error (.config other))
        ∧ (ofCluster settings provider cluster name label).journal = []
  accepted : ∀ specs, cluster.validate = .ok () →
    cluster.plan name ⟨settings.roleOrder⟩ = .ok specs →
      Reported settings provider cluster name label specs

/-- The reports in a journal, in order. -/
theorem status_eq (run : Provisioning) : run.status = run.journal.filterMap Occurrence.report? := by
  refine List.filterMap_congr fun occurrence _ => ?_
  cases occurrence <;> rfl

theorem reports_of_nodes {occurrences : List Occurrence}
    (h : ∀ occurrence ∈ occurrences, occurrence.isNode = true) :
    occurrences.filterMap Occurrence.report? = [] := by
  refine List.filterMap_eq_nil_iff.mpr fun occurrence hoccurrence => ?_
  cases occurrence with
  | status event => exact nomatch h _ hoccurrence
  | node node time what => rfl

variable (settings : Settings) (provider : Provider) (cluster : Cluster) (name label : String)

theorem reported_of_plan {specs : List NodeSpec} (hvalid : cluster.validate = .ok ())
    (hplan : cluster.plan name ⟨settings.roleOrder⟩ = .ok specs) :
    Reported settings provider cluster name label specs := by
  have hrun : plan cluster name ⟨settings.roleOrder⟩ = .ok specs := by
    rw [plan, hvalid]
    exact hplan
  have hjournal : (ofCluster settings provider cluster name label).journal
      = journalAfter settings provider label specs
        (Crew.byClock (specs.map (NodeRun.course settings provider label))) := by
    rw [ofCluster, hrun]
    rfl
  obtain ⟨result, hcrew, houtcome⟩ := exists_outcome settings provider label specs
  have hresult : (ofCluster settings provider cluster name label).result = result :=
    (result_ofCluster_of_plan hrun).trans houtcome
  rw [← hresult] at hcrew
  refine { counts := Cluster.count_nonneg_of_validate hvalid, packages := ?packages,
           waiting := fun _ => journalAfter_of_waiting,
           returned := fun _ _ => endReported_of_returned, clock := ⟨hjournal, hcrew⟩,
           status := ?status }
  case packages =>
    rw [count_phaseLabel]
    exact length_plan hvalid hplan
  case status =>
    obtain ⟨-, -, before, after, success, -, -, -, hwhole, hnodes, hsuccess⟩ :=
      endReported_of_returned hcrew
    refine ⟨success, ?_, hsuccess⟩
    obtain ⟨hbefore, hafter⟩ := List.forall_mem_append.mp hnodes
    rw [status_eq, hjournal, hwhole]
    simp [Occurrence.report?, reports_of_nodes hbefore, reports_of_nodes hafter]

/-- What is reported about the run for a cluster, if it is not rejected. -/
theorem reports_ofCluster : Reports settings provider cluster name label where
  rejected := by
    intro fault hfault
    have hplan : ∃ other, plan cluster name ⟨settings.roleOrder⟩ = .error other := by
      rcases cluster.validate_cases with ⟨other, hinvalid⟩ | hvalid
      · exact ⟨other, by rw [plan, hinvalid]; rfl⟩
      · rcases hfault with hinvalid | hplan
        · rw [hvalid] at hinvalid
          cases hinvalid
        · exact ⟨fault, by rw [plan, hvalid]; exact hplan⟩
    obtain ⟨other, hother⟩ := hplan
    rw [ofCluster, hother]
    exact ⟨⟨other, rfl⟩, rfl⟩
  accepted := by
    intro specs hvalid hplan
    exact reported_of_plan settings provider cluster name label hvalid hplan

end Provisioning

end ClusterProvision
