import ClusterProvision.Proofs.Course
import ClusterProvision.Proofs.VirtualClock
import ClusterProvision.Provisioning

/-!
# `ClusterProvision.Proofs.TimedReference`: a run from the runs of its nodes alone

A node's work has a course of its own: what it would come to if it were the only one. On the
virtual clock that is all there is to know about a run. `Provisioning.TimedReference` says
what the run comes to in terms of these courses, and `timedReference_ofSpecs` proves it:

* without nodes, the empty list at time 0;
* if a node fails, the earliest failure, at its time;
* if all nodes get ready, all of them in the order in which they do, at the last time;
* if some panic and none fails, an aborted run, at the last time.

That holds in whatever order those tasks move that move at one time (`Crew.Timely`).

The proof looks at the move with which the collector returns. If that move delivers a failure,
no task has failed before (`Crew.Timely.failed_of_return`). Otherwise it is the end of the last
task (`Crew.Timely.max_of_return`).
-/

set_option autoImplicit false

namespace ClusterProvision

namespace Crew

/-! ### The move with which the collector returns -/

namespace Timely

section
variable {courses : List (Course ReadyNode)} {before after : List (Nat × Nat)} {time index : Nat}

/-- The task that a move ends is the one that moves, at its time. -/
theorem ends_now (h : Timely courses (before ++ (time, index) :: after)) {place : Nat}
    {course : Course ReadyNode} (hcourse : courses[place]? = some course)
    (hrunning : ∃ entry ∈ (time, index) :: after, entry.2 = place)
    (hended : ∀ entry ∈ after, entry.2 ≠ place) : place = index ∧ course.finish = time := by
  rcases List.mem_cons.mp (h.finish_mem_rest hcourse hrunning) with hfinish | hfinish
  · exact ⟨congrArg Prod.snd hfinish, congrArg Prod.fst hfinish⟩
  · exact absurd rfl (hended _ hfinish)

/-- While the collector waits and has caught up, no task has ended with a failure. -/
theorem running_of_failed {rest : List (Nat × Nat)} (h : Timely courses (before ++ rest))
    (hwaits : (along courses before).result = none) {place : Nat} {course : Course ReadyNode}
    (hcourse : courses[place]? = some course) {failure : Failure}
    (hfailed : course.ending = .failed failure) : ∃ entry ∈ rest, entry.2 = place := by
  by_contra hnone
  have hended : ∀ entry ∈ rest, entry.2 ≠ place := by
    intro entry hentry hplace
    exact hnone ⟨entry, hentry, hplace⟩
  -- Its failure would have been delivered, but a waiting collector has received only results.
  have htask := tasks_along courses before place
  rw [hcourse, Option.map_some] at htask
  have hkept := kept_along courses before
  have hmem := hkept.error_mem_of_ended (List.mem_of_getElem? htask)
    ((h.ended_iff hcourse).mpr hended) hfailed
  rw [hkept.delivered_of_none hwaits, (caughtUp_along courses before hwaits).1, List.append_nil,
    List.mem_map] at hmem
  obtain ⟨node, -, hnode⟩ := hmem
  exact nomatch hnode

/-- A failure that is delivered with the move that brings the return is that of its task. No
task fails earlier, and of those that fail at time 0 it is the first. -/
theorem failed_of_return (h : Timely courses (before ++ (time, index) :: after))
    (hwaits : (along courses before).result = none) {failure : Failure}
    (hmem : .error failure ∈ (along courses (before ++ [(time, index)])).delivered) :
    ∃ course, courses[index]? = some course ∧ course.ending = .failed failure
      ∧ course.finish = time
      ∧ ∀ place other otherFailure, courses[place]? = some other →
          other.ending = .failed otherFailure →
          time ≤ other.finish ∧ (time = 0 → other.finish = 0 → index ≤ place) := by
  obtain ⟨task, htask, hended, hending⟩ := (kept_along courses _).exists_of_error_mem hmem
  obtain ⟨place, hplace⟩ := List.mem_iff_getElem?.mp htask
  rw [tasks_along] at hplace
  obtain ⟨course, hcourse, rfl⟩ := Option.map_eq_some_iff.mp hplace
  obtain ⟨rfl, hfinish⟩ := h.ends_now hcourse (h.running_of_failed hwaits hcourse hending)
    ((h.concat.ended_iff hcourse).mp hended)
  refine ⟨course, hcourse, hending, hfinish, ?_⟩
  intro other otherCourse otherFailure hother hfailed
  have hcomes := h.finish_mem_rest hother (h.running_of_failed hwaits hother hfailed)
  refine ⟨?_, ?_⟩
  · rcases List.mem_cons.mp hcomes with hnow | hlater
    · exact Nat.le_of_eq (congrArg Prod.fst hnow).symm
    · exact (List.pairwise_cons.mp (List.pairwise_append.mp h.sorted).2.1).1 _ hlater
  · -- The moves at time 0 come in the order of the tasks.
    intro hzero hotherZero
    rcases List.mem_cons.mp hcomes with hnow | hlater
    · exact Nat.le_of_eq (congrArg Prod.snd hnow).symm
    · have hhead : ((time, place) :: after).filter (·.1 = 0)
          = (time, place) :: after.filter (·.1 = 0) :=
        List.filter_cons_of_pos (decide_eq_true hzero)
      have hfirst := h.first
      rw [List.filter_append, hhead, List.map_append, List.map_cons] at hfirst
      refine (List.pairwise_cons.mp (List.pairwise_append.mp hfirst).2.1).1 other ?_
      exact List.mem_map.mpr ⟨_, List.mem_filter.mpr ⟨hlater, decide_eq_true hotherZero⟩, rfl⟩

/-- When all tasks have ended with the move that brings the return, it is the last to end. -/
theorem max_of_return (h : Timely courses (before ++ (time, index) :: after))
    (hwaits : (along courses before).result = none)
    (hended : ∀ task ∈ (along courses (before ++ [(time, index)])).tasks, task.ended = true) :
    (courses.map Course.finish).max? = some time := by
  have hpast : ∀ place course, courses[place]? = some course →
      ∀ entry ∈ after, entry.2 ≠ place := by
    intro place course hcourse
    have htask := tasks_along courses (before ++ [(time, index)]) place
    rw [hcourse, Option.map_some] at htask
    exact (h.concat.ended_iff hcourse).mp (hended _ (List.mem_of_getElem? htask))
  refine List.max?_eq_some_iff.mpr ⟨?_, ?_⟩
  · -- Before the move a task was running, and the move has ended it.
    have hrunning := (caughtUp_along courses before hwaits).2
    rw [(kept_along courses before).running, ne_eq, List.countP_eq_zero] at hrunning
    push Not at hrunning
    obtain ⟨task, htask, hnot⟩ := hrunning
    obtain ⟨place, hplace⟩ := List.mem_iff_getElem?.mp htask
    rw [tasks_along] at hplace
    obtain ⟨course, hcourse, rfl⟩ := Option.map_eq_some_iff.mp hplace
    have hcomes : ∃ entry ∈ (time, index) :: after, entry.2 = place := by
      by_contra hnone
      have hover := (h.ended_iff hcourse).mpr fun entry hentry hindex =>
        hnone ⟨entry, hentry, hindex⟩
      rw [hover] at hnot
      exact nomatch hnot
    rw [← (h.ends_now hcourse hcomes (hpast place course hcourse)).2]
    exact List.mem_map_of_mem (List.mem_of_getElem? hcourse)
  · -- All others have ended with this move or before.
    intro finish hfinish
    obtain ⟨course, hmem, rfl⟩ := List.mem_map.mp hfinish
    obtain ⟨place, hcourse⟩ := List.mem_iff_getElem?.mp hmem
    rcases List.mem_append.mp (h.concat.finish_mem_before hcourse (hpast place course hcourse))
      with hbefore | hnow
    · exact h.le_of_mem_before _ hbefore
    · exact Nat.le_of_eq (congrArg Prod.fst (List.mem_singleton.mp hnow))

end

end Timely

end Crew

/-! ### The reference -/

/-- A course that is one of the task for a node: what it ends with is that node, ready at the
end, or a failure that names it. -/
structure Course.IsFor (course : Course ReadyNode) (spec : NodeSpec) : Prop where
  ready : ∀ node, course.ending = .done node → node = ⟨spec.name, spec.role, course.finish⟩
  blames : ∀ failure, course.ending = .failed failure → failure.node? = some spec.name

/-- What a run comes to, where `alone` is the course that each node's task has alone. -/
structure Provisioning.TimedReference (alone : NodeSpec → Course ReadyNode)
    (specs : List NodeSpec) (result : Except Failure (List ReadyNode)) (returnedAt : Nat) :
    Prop where
  /-- Without nodes there is nothing to wait for. -/
  empty : specs = [] → result = .ok [] ∧ returnedAt = 0
  /-- If a node fails, the run fails as soon as the first does, whatever becomes of the others.
  Of the nodes that fail at time 0 it is the first in the list. -/
  failed : (∃ spec ∈ specs, ∃ failure, (alone spec).ending = .failed failure) →
    ∃ (place : Nat) (spec : NodeSpec) (failure : Failure),
      specs[place]? = some spec ∧ (alone spec).ending = .failed failure
      ∧ result = .error failure ∧ returnedAt = (alone spec).finish
      ∧ failure.node? = some spec.name
      ∧ ∀ (otherPlace : Nat) (other : NodeSpec) (otherFailure : Failure),
          specs[otherPlace]? = some other →
          (alone other).ending = .failed otherFailure →
          (alone spec).finish ≤ (alone other).finish
            ∧ ((alone spec).finish = 0 → (alone other).finish = 0 → place ≤ otherPlace)
  /-- If all nodes get ready, the run returns them with the last, in the order in which they
  became ready. -/
  ready : specs ≠ [] → (∀ spec ∈ specs, ∃ node, (alone spec).ending = .done node) →
    ∃ nodes, result = .ok nodes
      ∧ nodes.Perm (specs.map fun spec => ⟨spec.name, spec.role, (alone spec).finish⟩)
      ∧ nodes.Pairwise (·.since ≤ ·.since)
      ∧ (specs.map fun spec => (alone spec).finish).max? = some returnedAt
  /-- If none fails and some panic, the run is aborted when the last task has ended. -/
  aborted : (∀ spec ∈ specs, ∀ failure, (alone spec).ending ≠ .failed failure) →
    0 < specs.countP (fun spec => (alone spec).ending = .panicked) →
    result = .error (.aborted specs.length
        (specs.length - specs.countP fun spec => (alone spec).ending = .panicked))
      ∧ (specs.map fun spec => (alone spec).finish).max? = some returnedAt

namespace Provisioning.TimedReference

variable {alone : NodeSpec → Course ReadyNode} {specs : List NodeSpec}

theorem of_nil : TimedReference alone [] (.ok []) 0 where
  empty := fun _ => ⟨rfl, rfl⟩
  failed := by
    rintro ⟨spec, hspec, -⟩
    exact nomatch hspec
  ready := fun hne _ => absurd rfl hne
  aborted := fun _ hpanicked => absurd hpanicked (Nat.lt_irrefl 0)

theorem of_failed {place : Nat} {spec : NodeSpec} {failure : Failure}
    (hspec : specs[place]? = some spec) (hfailed : (alone spec).ending = .failed failure)
    (hnode : failure.node? = some spec.name)
    (hfirst : ∀ (otherPlace : Nat) (other : NodeSpec) (otherFailure : Failure),
      specs[otherPlace]? = some other → (alone other).ending = .failed otherFailure →
      (alone spec).finish ≤ (alone other).finish
        ∧ ((alone spec).finish = 0 → (alone other).finish = 0 → place ≤ otherPlace)) :
    TimedReference alone specs (.error failure) (alone spec).finish where
  empty := by
    rintro rfl
    exact nomatch hspec
  failed := fun _ => ⟨place, spec, failure, hspec, hfailed, rfl, rfl, hnode, hfirst⟩
  ready := by
    intro _ hdone
    obtain ⟨node, hready⟩ := hdone spec (List.mem_of_getElem? hspec)
    rw [hfailed] at hready
    exact nomatch hready
  aborted := fun hnone _ => absurd hfailed (hnone spec (List.mem_of_getElem? hspec) failure)

theorem of_ready {nodes : List ReadyNode} {time : Nat}
    (hdone : ∀ spec ∈ specs, ∃ node, (alone spec).ending = .done node)
    (hnodes : nodes.Perm (specs.map fun spec => ⟨spec.name, spec.role, (alone spec).finish⟩))
    (hsorted : nodes.Pairwise (·.since ≤ ·.since))
    (hlast : (specs.map fun spec => (alone spec).finish).max? = some time) :
    TimedReference alone specs (.ok nodes) time where
  empty := by
    rintro rfl
    exact nomatch hlast
  failed := by
    rintro ⟨spec, hspec, failure, hfailed⟩
    obtain ⟨node, hready⟩ := hdone spec hspec
    rw [hfailed] at hready
    exact nomatch hready
  ready := fun _ _ => ⟨nodes, rfl, hnodes, hsorted, hlast⟩
  aborted := by
    intro _ hpanicked
    obtain ⟨spec, hspec, hpanics⟩ := List.countP_pos_iff.mp hpanicked
    obtain ⟨node, hready⟩ := hdone spec hspec
    rw [of_decide_eq_true hpanics] at hready
    exact nomatch hready

theorem of_aborted {time : Nat}
    (hnone : ∀ spec ∈ specs, ∀ failure, (alone spec).ending ≠ .failed failure)
    (hpanicked : 0 < specs.countP fun spec => (alone spec).ending = .panicked)
    (hlast : (specs.map fun spec => (alone spec).finish).max? = some time) :
    TimedReference alone specs (.error (.aborted specs.length
      (specs.length - specs.countP fun spec => (alone spec).ending = .panicked))) time where
  empty := by
    rintro rfl
    exact nomatch hlast
  failed := by
    rintro ⟨spec, hspec, failure, hfailed⟩
    exact absurd hfailed (hnone spec hspec failure)
  ready := by
    intro _ hdone
    obtain ⟨spec, hspec, hpanics⟩ := List.countP_pos_iff.mp hpanicked
    obtain ⟨node, hready⟩ := hdone spec hspec
    rw [of_decide_eq_true hpanics] at hready
    exact nomatch hready
  aborted := fun _ _ => ⟨rfl, hlast⟩

/-! ### What follows from the reference -/

section
variable {result : Except Failure (List ReadyNode)} {time : Nat}

/-- The three ways of a list of nodes: one fails, all get ready, or some panic and none fails. -/
theorem cases_courses (alone : NodeSpec → Course ReadyNode) (specs : List NodeSpec) :
    (∃ spec ∈ specs, ∃ failure, (alone spec).ending = .failed failure)
      ∨ (∀ spec ∈ specs, ∃ node, (alone spec).ending = .done node)
      ∨ ((∀ spec ∈ specs, ∀ failure, (alone spec).ending ≠ .failed failure)
        ∧ 0 < specs.countP fun spec => (alone spec).ending = .panicked) := by
  by_cases hfailed : ∃ spec ∈ specs, ∃ failure, (alone spec).ending = .failed failure
  · exact .inl hfailed
  right
  have hnone : ∀ spec ∈ specs, ∀ failure, (alone spec).ending ≠ .failed failure :=
    fun spec hspec failure h => hfailed ⟨spec, hspec, failure, h⟩
  by_cases hpanicked : 0 < specs.countP fun spec => (alone spec).ending = .panicked
  · exact .inr ⟨hnone, hpanicked⟩
  left
  intro spec hspec
  cases hending : (alone spec).ending with
  | done node => exact ⟨node, rfl⟩
  | failed failure => exact absurd hending (hnone spec hspec failure)
  | panicked =>
    exact absurd (List.countP_pos_iff.mpr ⟨spec, hspec, decide_eq_true hending⟩) hpanicked

variable (h : TimedReference alone specs result time)
include h

/-- A run returns nodes exactly if all of them get ready. -/
theorem ok_iff_done :
    (∃ nodes, result = .ok nodes) ↔ ∀ spec ∈ specs, ∃ node, (alone spec).ending = .done node := by
  constructor
  · rintro ⟨nodes, hok⟩
    rcases cases_courses alone specs with hfailed | hdone | ⟨hnone, hpanicked⟩
    · obtain ⟨-, -, failure, -, -, herror, -⟩ := h.failed hfailed
      exact nomatch hok.symm.trans herror
    · exact hdone
    · exact nomatch hok.symm.trans (h.aborted hnone hpanicked).1
  · intro hdone
    cases hspecs : specs with
    | nil => exact ⟨[], (h.empty hspecs).1⟩
    | cons first others =>
      obtain ⟨nodes, hok, -⟩ := h.ready (by rw [hspecs]; exact List.cons_ne_nil _ _) hdone
      exact ⟨nodes, hok⟩

/-- An error is that of a node which fails, at its time, or the run is aborted with the last
task. -/
theorem cases_of_error {failure : Failure} (herror : result = .error failure) :
    (∃ (place : Nat) (spec : NodeSpec), specs[place]? = some spec
        ∧ (alone spec).ending = .failed failure ∧ (alone spec).finish = time)
      ∨ ((∀ spec ∈ specs, ∀ failure, (alone spec).ending ≠ .failed failure)
        ∧ 0 < specs.countP (fun spec => (alone spec).ending = .panicked)
        ∧ failure = .aborted specs.length
          (specs.length - specs.countP fun spec => (alone spec).ending = .panicked)
        ∧ (specs.map fun spec => (alone spec).finish).max? = some time) := by
  rcases cases_courses alone specs with hfailed | hdone | ⟨hnone, hpanicked⟩
  · left
    obtain ⟨place, spec, other, hspec, hending, hresult, htime, -⟩ := h.failed hfailed
    cases herror.symm.trans hresult
    exact ⟨place, spec, hspec, hending, htime.symm⟩
  · obtain ⟨nodes, hok⟩ := h.ok_iff_done.mpr hdone
    exact nomatch herror.symm.trans hok
  · right
    obtain ⟨hresult, hlast⟩ := h.aborted hnone hpanicked
    cases herror.symm.trans hresult
    exact ⟨hnone, hpanicked, rfl, hlast⟩

/-- A run does not outlast a node that fails. -/
theorem time_le_of_failed {spec : NodeSpec} (hspec : spec ∈ specs) {failure : Failure}
    (hfailed : (alone spec).ending = .failed failure) : time ≤ (alone spec).finish := by
  obtain ⟨place, first, _, hfirst, -, -, htime, -, hleast⟩ :=
    h.failed ⟨spec, hspec, failure, hfailed⟩
  obtain ⟨otherPlace, hother⟩ := List.mem_iff_getElem?.mp hspec
  rw [htime]
  exact (hleast otherPlace spec failure hother hfailed).1

/-- A run does not outlast its tasks. -/
theorem time_le_of_finish_le {last : Nat} (hlast : ∀ spec ∈ specs, (alone spec).finish ≤ last) :
    time ≤ last := by
  have hmax : (specs.map fun spec => (alone spec).finish).max? = some time → time ≤ last := by
    intro hmax
    obtain ⟨spec, hspec, hfinish⟩ := List.mem_map.mp (List.max?_mem hmax)
    rw [← hfinish]
    exact hlast spec hspec
  rcases cases_courses alone specs with ⟨spec, hspec, failure, hfailed⟩ | hdone | ⟨hnone, hpanicked⟩
  · exact Nat.le_trans (h.time_le_of_failed hspec hfailed) (hlast spec hspec)
  · cases hspecs : specs with
    | nil =>
      rw [(h.empty hspecs).2]
      exact Nat.zero_le last
    | cons first others =>
      obtain ⟨_, -, -, -, hready⟩ := h.ready (by rw [hspecs]; exact List.cons_ne_nil _ _) hdone
      exact hmax hready
  · exact hmax (h.aborted hnone hpanicked).2

end

end Provisioning.TimedReference

namespace Crew

variable {alone : NodeSpec → Course ReadyNode} {specs : List NodeSpec}
  {order : List (Nat × Nat)}

/-- When all tasks have ended with results, no node's work has failed. -/
theorem alone_not_failed {nodes : List ReadyNode}
    (hended : ∀ task ∈ (along (specs.map alone) order).tasks, task.ended = true)
    (hdelivered : (along (specs.map alone) order).delivered = nodes.map .ok) :
    ∀ spec ∈ specs, ∀ failure, (alone spec).ending ≠ .failed failure := by
  intro spec hspec failure hfailed
  obtain ⟨task, htask, hending⟩ : ∃ task ∈ (along (specs.map alone) order).tasks,
      task.ending = (alone spec).ending := exists_task_of_course (List.mem_map_of_mem hspec)
  exact (kept_along _ order).not_failed hended hdelivered htask failure (hending.trans hfailed)

/-- When all tasks have ended with results, those without one have panicked. -/
theorem alone_panicked {nodes : List ReadyNode}
    (hended : ∀ task ∈ (along (specs.map alone) order).tasks, task.ended = true)
    (hdelivered : (along (specs.map alone) order).delivered = nodes.map .ok) :
    nodes.length + specs.countP (fun spec => (alone spec).ending = .panicked)
      = specs.length := by
  have hlength := (kept_along (specs.map alone) order).length_delivered_add_panicked hended
  rw [hdelivered, List.length_map, along, panicked_run, length_tasks_run, List.countP_map,
    List.length_map] at hlength
  exact hlength

/-- When every task has delivered a result, every node has got ready. -/
theorem alone_done {nodes : List ReadyNode}
    (hended : ∀ task ∈ (along (specs.map alone) order).tasks, task.ended = true)
    (hdelivered : (along (specs.map alone) order).delivered = nodes.map .ok)
    (hall : nodes.length = specs.length) :
    ∀ spec ∈ specs, ∃ node, (alone spec).ending = .done node := by
  intro spec hspec
  obtain ⟨task, htask, hending⟩ := exists_task_of_course (List.mem_map_of_mem (f := alone) hspec)
  rw [← hending]
  refine (kept_along _ order).done_of_all hended hdelivered ?_ htask
  rw [hall, along, length_tasks_run, List.length_map]

/-- Nodes that have been delivered by all tasks are those of the list, each ready at its
time. -/
theorem alone_nodes {nodes : List ReadyNode} (halone : ∀ spec ∈ specs, (alone spec).IsFor spec)
    (hended : ∀ task ∈ (along (specs.map alone) order).tasks, task.ended = true)
    (hdelivered : (along (specs.map alone) order).delivered = nodes.map .ok)
    (hdone : ∀ spec ∈ specs, ∃ node, (alone spec).ending = .done node) :
    nodes.Perm (specs.map fun spec => ⟨spec.name, spec.role, (alone spec).finish⟩) := by
  refine delivered_perm ?_ hended hdelivered
  intro spec hspec
  obtain ⟨node, hready⟩ := hdone spec hspec
  rw [hready, (halone spec hspec).ready node hready]

/-- A course that is one of the task for a node says when the node became ready. -/
theorem dated_of_isFor (halone : ∀ spec ∈ specs, (alone spec).IsFor spec) :
    ∀ course ∈ specs.map alone, Dated course := by
  intro course hcourse node hready
  obtain ⟨spec, hspec, rfl⟩ := List.mem_map.mp hcourse
  rw [(halone spec hspec).ready node hready]

section
variable {before after : List (Nat × Nat)} {time index : Nat}

/-- If the collector returns nodes with a move, all nodes have got ready, and that move is the
last. -/
theorem Timely.timedReference_of_ok
    (h : Timely (specs.map alone) (before ++ (time, index) :: after))
    (halone : ∀ spec ∈ specs, (alone spec).IsFor spec)
    (hwaits : (along (specs.map alone) before).result = none) {nodes : List ReadyNode}
    (hnow : (along (specs.map alone) (before ++ [(time, index)])).result = some (.ok nodes)) :
    Provisioning.TimedReference alone specs (.ok nodes) time := by
  obtain ⟨hdelivered, hall, hended⟩ := (kept_along (specs.map alone) _).delivered_of_ok hnow
  rw [along, length_tasks_run, List.length_map] at hall
  have hdone := alone_done hended hdelivered hall
  have hlast := h.max_of_return hwaits hended
  rw [List.map_map] at hlast
  refine .of_ready hdone (alone_nodes halone hended hdelivered hdone) ?_ hlast
  -- Up to its last move the run is on time, so the nodes have come in order.
  have hpast : ∀ entry ∈ before ++ [(time, index)], entry.1 ≤ time := by
    intro entry hentry
    rcases List.mem_append.mp hentry with hbefore | hmove
    · exact h.le_of_mem_before entry hbefore
    · exact Nat.le_of_eq (congrArg Prod.fst (List.mem_singleton.mp hmove))
  have hsorted := (h.concat.onTime (dated_of_isFor halone) hpast).sorted
  rw [readyTimes_of_results hdelivered] at hsorted
  exact List.pairwise_map.mp hsorted

/-- If the collector returns an error with a move, that move delivers a failure, or it is the
last and some tasks have panicked. -/
theorem Timely.timedReference_of_error
    (h : Timely (specs.map alone) (before ++ (time, index) :: after))
    (halone : ∀ spec ∈ specs, (alone spec).IsFor spec)
    (hwaits : (along (specs.map alone) before).result = none) {failure : Failure}
    (hnow : (along (specs.map alone) (before ++ [(time, index)])).result
      = some (.error failure)) :
    Provisioning.TimedReference alone specs (.error failure) time := by
  have htasks : (along (specs.map alone) (before ++ [(time, index)])).tasks.length
      = specs.length := by
    rw [along, length_tasks_run, List.length_map]
  rcases (kept_along (specs.map alone) _).delivered_of_error hnow with ⟨later, hdelivered⟩
    | ⟨hfailure, hdelivered, hmissing, hended⟩
  · have hmem : .error failure
        ∈ (along (specs.map alone) (before ++ [(time, index)])).delivered := by
      rw [hdelivered]
      exact List.mem_append_right _ List.mem_cons_self
    obtain ⟨course, hcourse, hfailed, hfinish, hfirst⟩ := h.failed_of_return hwaits hmem
    rw [List.getElem?_map] at hcourse
    obtain ⟨spec, hspec, rfl⟩ := Option.map_eq_some_iff.mp hcourse
    rw [← hfinish]
    refine .of_failed hspec hfailed
      ((halone spec (List.mem_of_getElem? hspec)).blames failure hfailed) ?_
    intro otherPlace other otherFailure hother hotherFailed
    rw [hfinish]
    refine hfirst otherPlace (alone other) otherFailure ?_ hotherFailed
    rw [List.getElem?_map, hother, Option.map_some]
  · -- Everything has been received: the count of the results tells how many have panicked.
    have hcount := alone_panicked hended hdelivered
    have hlast := h.max_of_return hwaits hended
    rw [List.map_map] at hlast
    rw [htasks] at hfailure hmissing
    have hreceived : (along (specs.map alone) (before ++ [(time, index)])).fanIn.received.length
        = specs.length - specs.countP fun spec => (alone spec).ending = .panicked := by omega
    rw [hfailure, hreceived]
    exact .of_aborted (alone_not_failed hended hdelivered) (by omega) hlast

end

/-- On every order that keeps to the courses and to the clock, a run comes to what the courses
say. -/
theorem Timely.timedReference (h : Timely (specs.map alone) order)
    (halone : ∀ spec ∈ specs, (alone spec).IsFor spec) :
    ∃ result time, (along (specs.map alone) order).result = some result
      ∧ (along (specs.map alone) order).returnedAt = some time
      ∧ Provisioning.TimedReference alone specs result time := by
  cases hspecs : specs with
  | nil =>
    -- A crew without tasks has returned before its first move.
    have hstart : (Crew.start []).result.isSome = true := rfl
    refine ⟨.ok [], 0, ?_, ?_, .of_nil⟩
    · exact result_run_of_isSome hstart _
    · exact returnedAt_run_of_isSome hstart _
  | cons first others =>
    rw [← hspecs]
    have hne : specs.map alone ≠ [] := by
      rw [hspecs]
      exact List.cons_ne_nil _ _
    obtain ⟨before, time, index, after, rfl, hwaits, hnow, hreturned⟩ :=
      h.exists_return (dated_of_isFor halone) hne
    obtain ⟨result, hresult⟩ := Option.isSome_iff_exists.mp h.returned
    refine ⟨result, time, hresult, hreturned, ?_⟩
    rw [hresult] at hnow
    cases result with
    | ok nodes => exact h.timedReference_of_ok halone hwaits hnow
    | error failure => exact h.timedReference_of_error halone hwaits hnow

end Crew

namespace NodeRun

variable (settings : Settings) (provider : Provider) (label : String) (spec : NodeSpec)

theorem isFor_course : (course settings provider label spec).IsFor spec where
  ready := by
    intro node hready
    exact (ofWork_done.mp hready).2
  blames := by
    intro failure hfailed
    exact blames_provision settings provider label spec 0 failure (ofWork_failed.mp hfailed)

/-- A node's task moves at times that rise. -/
theorem sorted_times_course :
    (Crew.times (course settings provider label spec)).Pairwise (· ≤ ·) := by
  have horderly := orderly_provision settings provider label spec 0
  refine List.pairwise_append.mpr ⟨horderly.sorted, List.pairwise_singleton _ _, ?_⟩
  intro time htime finish hfinish
  rw [List.mem_singleton.mp hfinish]
  exact (horderly.within time htime).2

end NodeRun

namespace Provisioning

/-- A run depends on its settings through the courses of its nodes only. -/
theorem ofSpecs_congr {settings other : Settings} {provider : Provider} {label : String}
    {specs : List NodeSpec}
    (h : specs.map (NodeRun.course settings provider label)
      = specs.map (NodeRun.course other provider label)) :
    ofSpecs settings provider label specs = ofSpecs other provider label specs := by
  unfold ofSpecs bracketed crew
  rw [h]

variable (settings : Settings) (provider : Provider) (label : String) (specs : List NodeSpec)

/-- The virtual clock keeps to the courses of the nodes. -/
theorem timely_agenda :
    Crew.Timely (specs.map (NodeRun.course settings provider label))
      (Crew.agenda (specs.map (NodeRun.course settings provider label))) := by
  refine Crew.timely_agenda fun course hcourse => ?_
  obtain ⟨spec, -, rfl⟩ := List.mem_map.mp hcourse
  exact NodeRun.sorted_times_course settings provider label spec

/-- The crew of a run goes along the agenda. -/
theorem crew_eq_along :
    crew settings provider label specs
      = Crew.along (specs.map (NodeRun.course settings provider label))
          (Crew.agenda (specs.map (NodeRun.course settings provider label))) :=
  congrArg (Crew.run _) (Crew.byClock_eq_inOrder _)

/-- On the virtual clock the collector returns. -/
theorem exists_outcome :
    ∃ result, (crew settings provider label specs).result = some result
      ∧ outcome (crew settings provider label specs) = result := by
  obtain ⟨result, hresult⟩ :=
    Option.isSome_iff_exists.mp (timely_agenda settings provider label specs).returned
  have hcrew : (crew settings provider label specs).result = some result := hresult
  refine ⟨result, hcrew, ?_⟩
  rw [outcome, hcrew]
  rfl

/-- The run on the virtual clock comes to what the courses of its nodes say. -/
theorem reference_ofSpecs :
    TimedReference (NodeRun.course settings provider label) specs
      (ofSpecs settings provider label specs).result
      (ofSpecs settings provider label specs).returnedAt := by
  obtain ⟨result, time, hresult, hreturned, href⟩ :=
    (timely_agenda settings provider label specs).timedReference
      fun spec _ => NodeRun.isFor_course settings provider label spec
  rw [← crew_eq_along] at hresult hreturned
  have houtcome : (ofSpecs settings provider label specs).result = result := by
    show outcome (crew settings provider label specs) = result
    rw [outcome, hresult]
    rfl
  have htime : (ofSpecs settings provider label specs).returnedAt = time := by
    show (crew settings provider label specs).returnedAt.getD _ = time
    rw [hreturned]
    rfl
  rw [houtcome, htime]
  exact href

/-- On the virtual clock a run comes to what its nodes' work comes to alone, in whatever order
the tasks move that move at one time. The order of the agenda is one of these, and its collector
has returned the result that the run is said to have, at that time. -/
theorem timedReference_ofSpecs :
    (∀ order, Crew.Timely (specs.map (NodeRun.course settings provider label)) order →
      ∃ result time,
        (Crew.along (specs.map (NodeRun.course settings provider label)) order).result
          = some result
        ∧ (Crew.along (specs.map (NodeRun.course settings provider label)) order).returnedAt
          = some time
        ∧ TimedReference (NodeRun.course settings provider label) specs result time)
      ∧ (crew settings provider label specs).result
        = some (ofSpecs settings provider label specs).result
      ∧ (crew settings provider label specs).returnedAt
        = some (ofSpecs settings provider label specs).returnedAt
      ∧ TimedReference (NodeRun.course settings provider label) specs
        (ofSpecs settings provider label specs).result
        (ofSpecs settings provider label specs).returnedAt := by
  have hfor : ∀ spec ∈ specs, (NodeRun.course settings provider label spec).IsFor spec :=
    fun spec _ => NodeRun.isFor_course settings provider label spec
  refine ⟨fun order horder => horder.timedReference hfor, ?_⟩
  obtain ⟨result, time, hresult, hreturned, href⟩ :=
    (timely_agenda settings provider label specs).timedReference hfor
  have hrun := crew_eq_along settings provider label specs
  have houtcome : (ofSpecs settings provider label specs).result = result := by
    show outcome (crew settings provider label specs) = result
    rw [outcome, hrun, hresult]
    rfl
  have htime : (ofSpecs settings provider label specs).returnedAt = time := by
    show (crew settings provider label specs).returnedAt.getD _ = time
    rw [hrun, hreturned]
    rfl
  rw [houtcome, htime]
  exact ⟨hresult, hreturned, href⟩

end Provisioning

end ClusterProvision
