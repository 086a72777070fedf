import ClusterProvision.Proofs.Crew
import ClusterProvision.Proofs.Sorting
import Mathlib.Data.List.Induction

/-!
# `ClusterProvision.Proofs.VirtualClock`: runs in the order of the clock

On the virtual clock the tasks move in the order of their times. `Crew.Timely` says what an
order of moves needs for that, and leaves open which of two tasks moves first at a time other
than 0. The agenda of the courses is such an order (`timely_agenda`).

Along a timely order the collector keeps up with the tasks (`caughtUp_along`), a task has ended
once its last move is past (`Timely.ended_iff`), and the nodes come in the order in which they
became ready (`Timely.onTime`). So there is one move with which the collector returns
(`Timely.exists_return`).
-/

set_option autoImplicit false

namespace ClusterProvision.Crew

/-- An order of the tasks' moves, with their times, that keeps to the courses and to the
clock. Tasks that move at time 0 do so in their own order. -/
structure Timely (courses : List (Course ReadyNode)) (order : List (Nat × Nat)) : Prop where
  own : ∀ index,
    (order.filter (·.2 = index)).map Prod.fst = (courses[index]?.map times).getD []
  sorted : order.Pairwise (·.1 ≤ ·.1)
  first : ((order.filter (·.1 = 0)).map Prod.snd).Pairwise (· ≤ ·)

/-- The schedule for an order of the tasks' moves: after each of them the collector takes two
steps. -/
def inOrder (order : List (Nat × Nat)) : List Move :=
  order.flatMap fun (_, index) => [.task index, .collect, .collect]

theorem byClock_eq_inOrder (courses : List (Course ReadyNode)) :
    byClock courses = inOrder (agenda courses) := rfl

/-- A crew after the moves of an order. -/
def along (courses : List (Course ReadyNode)) (order : List (Nat × Nat)) : Crew :=
  (Crew.start courses).run (inOrder order)

/-! ### The agenda -/

/-- The moves of the tasks with their times, task by task. The first task has the index
`start`. -/
def timetable (start : Nat) (courses : List (Course ReadyNode)) : List (Nat × Nat) :=
  (courses.zipIdx start).flatMap fun (course, index) => (times course).map fun time => (time, index)

theorem agenda_eq_sortOn (courses : List (Course ReadyNode)) :
    agenda courses = sortOn Prod.fst (timetable 0 courses) := rfl

theorem timetable_cons (start : Nat) (course : Course ReadyNode)
    (courses : List (Course ReadyNode)) :
    timetable start (course :: courses)
      = (times course).map (fun time => (time, start)) ++ timetable (start + 1) courses := rfl

theorem le_of_mem_timetable {start : Nat} {courses : List (Course ReadyNode)} {entry : Nat × Nat}
    (h : entry ∈ timetable start courses) : start ≤ entry.2 := by
  obtain ⟨⟨course, index⟩, hindex, htime⟩ := List.mem_flatMap.mp h
  obtain ⟨time, -, rfl⟩ := List.mem_map.mp htime
  exact (List.mem_zipIdx hindex).1

/-- The times of one task in the timetable are those of its course. -/
theorem own_timetable (start index : Nat) (courses : List (Course ReadyNode)) :
    ((timetable start courses).filter (·.2 = start + index)).map Prod.fst
      = (courses[index]?.map times).getD [] := by
  induction courses generalizing start index with
  | nil => rfl
  | cons course courses ih =>
    rw [timetable_cons, List.filter_append, List.map_append]
    -- The first course has the moves of the first task, and of no other.
    cases index with
    | zero =>
      have hrest : (timetable (start + 1) courses).filter (·.2 = start + 0) = [] := by
        rw [List.filter_eq_nil_iff]
        intro entry hentry
        have hle := le_of_mem_timetable hentry
        simp only [decide_eq_true_eq]
        omega
      rw [hrest, List.filter_eq_self.mpr (by simp)]
      simp [Function.comp_def]
    | succ index =>
      have hfirst : ((times course).map fun time => (time, start)).filter
          (·.2 = start + (index + 1)) = [] := by
        rw [List.filter_eq_nil_iff]
        intro entry hentry
        obtain ⟨time, -, rfl⟩ := List.mem_map.mp hentry
        simp
      rw [hfirst, show start + (index + 1) = start + 1 + index by omega, ih (start + 1) index]
      rfl

/-- The timetable has the tasks in their own order. -/
theorem sorted_timetable (start : Nat) (courses : List (Course ReadyNode)) :
    (timetable start courses).Pairwise (·.2 ≤ ·.2) := by
  induction courses generalizing start with
  | nil => exact .nil
  | cons course courses ih =>
    rw [timetable_cons]
    refine List.pairwise_append.mpr ⟨?_, ih (start + 1), ?_⟩
    · rw [List.pairwise_map]
      exact List.pairwise_of_forall fun _ _ => Nat.le_refl start
    · intro entry hentry later hlater
      obtain ⟨time, -, rfl⟩ := List.mem_map.mp hentry
      exact Nat.le_of_succ_le (le_of_mem_timetable hlater)

/-- The agenda of courses whose times are in order keeps to them and to the clock. -/
theorem timely_agenda {courses : List (Course ReadyNode)}
    (h : ∀ course ∈ courses, (times course).Pairwise (· ≤ ·)) :
    Timely courses (agenda courses) := by
  have hsorted := sorted_sortOn Prod.fst (timetable 0 courses)
  rw [agenda_eq_sortOn]
  refine ⟨fun index => ?_, hsorted, ?_⟩
  · -- Both sides hold the same times, and both are in order.
    have hown := own_timetable 0 index courses
    rw [Nat.zero_add] at hown
    have hperm := ((sortOn_perm Prod.fst (timetable 0 courses)).filter (·.2 = index)).map Prod.fst
    rw [hown] at hperm
    refine hperm.eq_of_pairwise (fun _ _ _ _ => Nat.le_antisymm) ?_ ?_
    · exact List.pairwise_map.mpr (hsorted.filter _)
    · cases hcourse : courses[index]? with
      | none => exact .nil
      | some course => exact h course (List.mem_of_getElem? hcourse)
  · rw [filter_sortOn, List.pairwise_map]
    exact (sorted_timetable 0 courses).filter _

/-! ### How far the tasks are -/

theorem inOrder_append (first second : List (Nat × Nat)) :
    inOrder (first ++ second) = inOrder first ++ inOrder second := List.flatMap_append

/-- One more move of an order: the task's, then two steps of the collector. -/
theorem along_append_singleton (courses : List (Course ReadyNode)) (before : List (Nat × Nat))
    (time index : Nat) :
    along courses (before ++ [(time, index)])
      = ((along courses before).moveTask index).moveCollector.moveCollector := by
  rw [along, inOrder_append, run_append]
  rfl

theorem count_inOrder (order : List (Nat × Nat)) (index : Nat) :
    (inOrder order).count (.task index) = order.countP (·.2 = index) := by
  induction order with
  | nil => rfl
  | cons entry order ih =>
    have hblock : [Move.task entry.2, .collect, .collect].count (.task index)
        = if entry.2 = index then 1 else 0 := by
      by_cases hindex : entry.2 = index <;> simp [hindex]
    rw [inOrder, List.flatMap_cons, List.count_append, hblock, List.countP_cons, Nat.add_comm,
      ← inOrder, ih]
    simp

theorem tasks_along (courses : List (Course ReadyNode)) (before : List (Nat × Nat))
    (index : Nat) :
    (along courses before).tasks[index]?
      = courses[index]?.map fun course => (taskOf course).after (before.countP (·.2 = index)) := by
  rw [along, tasks_run, count_inOrder]
  show (courses.map taskOf)[index]?.map _ = _
  rw [List.getElem?_map, Option.map_map]
  rfl

section
variable {courses : List (Course ReadyNode)} {before rest : List (Nat × Nat)} {index : Nat}
  {course : Course ReadyNode}

namespace Timely

/-- The times of a course, those that are past before those to come. -/
theorem times_eq (h : Timely courses (before ++ rest)) (hcourse : courses[index]? = some course) :
    times course = (before.filter (·.2 = index)).map Prod.fst
      ++ (rest.filter (·.2 = index)).map Prod.fst := by
  have hown := h.own index
  rw [hcourse, List.filter_append, List.map_append] at hown
  exact hown.symm

/-- A task has ended once no move of it is to come. -/
theorem ended_iff (h : Timely courses (before ++ rest)) (hcourse : courses[index]? = some course) :
    ((taskOf course).after (before.countP (·.2 = index))).ended = true
      ↔ ∀ entry ∈ rest, entry.2 ≠ index := by
  -- The moves of a task are one more than its events, and they are past or to come.
  have hlength := congrArg List.length (h.times_eq hcourse)
  rw [times, List.length_append, List.length_append, List.length_map, List.length_map,
    List.length_map, ← List.countP_eq_length_filter, ← List.countP_eq_length_filter] at hlength
  have hnone : rest.countP (·.2 = index) = 0 ↔ ∀ entry ∈ rest, entry.2 ≠ index := by
    simp [List.countP_eq_zero]
  rw [List.length_singleton] at hlength
  rw [← hnone]
  show (false || decide (course.events.length < _)) = true ↔ _
  rw [Bool.false_or, decide_eq_true_eq]
  omega

/-- A task that has not ended is yet to end at its time. -/
theorem finish_mem_rest (h : Timely courses (before ++ rest))
    (hcourse : courses[index]? = some course) (hrunning : ∃ entry ∈ rest, entry.2 = index) :
    (course.finish, index) ∈ rest := by
  have hne : (rest.filter (·.2 = index)).map Prod.fst ≠ [] := by
    obtain ⟨entry, hentry, hindex⟩ := hrunning
    simp only [ne_eq, List.map_eq_nil_iff, List.filter_eq_nil_iff, not_forall]
    exact ⟨entry, hentry, by simpa using hindex⟩
  -- The end is the last of the task's times, and some of them are to come.
  have hlast := congrArg List.getLast? (h.times_eq hcourse)
  rw [times, List.getLast?_concat, List.getLast?_append_of_ne_nil _ hne] at hlast
  have hmem := List.mem_of_getLast? hlast.symm
  obtain ⟨entry, hentry, hfinish⟩ := List.mem_map.mp hmem
  obtain ⟨hrest, hindex⟩ := List.mem_filter.mp hentry
  rw [← hfinish, ← of_decide_eq_true hindex]
  exact hrest

/-- A task that has ended did so at its time. -/
theorem finish_mem_before (h : Timely courses (before ++ rest))
    (hcourse : courses[index]? = some course) (hended : ∀ entry ∈ rest, entry.2 ≠ index) :
    (course.finish, index) ∈ before := by
  have hnil : rest.filter (·.2 = index) = [] := by
    simpa [List.filter_eq_nil_iff] using hended
  have hmem : course.finish ∈ times course := List.mem_append_right _ List.mem_cons_self
  rw [h.times_eq hcourse, hnil, List.map_nil, List.append_nil] at hmem
  obtain ⟨entry, hentry, hfinish⟩ := List.mem_map.mp hmem
  obtain ⟨hbefore, hindex⟩ := List.mem_filter.mp hentry
  rw [← hfinish, ← of_decide_eq_true hindex]
  exact hbefore

/-- The next move of an order is the next one of its task. -/
theorem next {time : Nat} (h : Timely courses (before ++ (time, index) :: rest)) :
    ∃ course, courses[index]? = some course
      ∧ (times course)[before.countP (·.2 = index)]? = some time := by
  cases hcourse : courses[index]? with
  | none =>
    have hown := h.own index
    rw [hcourse] at hown
    simp at hown
  | some course =>
    refine ⟨course, rfl, ?_⟩
    have hlength : ((before.filter (·.2 = index)).map Prod.fst).length
        = before.countP (·.2 = index) := by
      rw [List.length_map, List.countP_eq_length_filter]
    rw [h.times_eq hcourse, ← hlength, List.getElem?_append_right (Nat.le_refl _), Nat.sub_self]
    simp

/-- What comes before a move comes no later. -/
theorem le_of_mem_before {time : Nat} (h : Timely courses (before ++ (time, index) :: rest)) :
    ∀ entry ∈ before, entry.1 ≤ time := by
  intro entry hentry
  exact (List.pairwise_append.mp h.sorted).2.2 entry hentry _ List.mem_cons_self

/-- The next move counts among those that are past. -/
theorem concat {entry : Nat × Nat} (h : Timely courses (before ++ entry :: rest)) :
    Timely courses ((before ++ [entry]) ++ rest) := by
  rw [List.append_assoc]
  exact h

end Timely

/-! ### The nodes and the clock -/

/-- A course that ends with a node says that the node became ready at its end. -/
def Dated (course : Course ReadyNode) : Prop :=
  ∀ node, course.ending = .done node → node.since = course.finish

/-- The times at which the delivered nodes became ready, in order of delivery. -/
def readyTimes (crew : Crew) : List Nat :=
  crew.delivered.filterMap fun outcome =>
    match outcome with
    | .ok node => some node.since
    | .error _ => none

theorem readyTimes_of_results {crew : Crew} {nodes : List ReadyNode}
    (h : crew.delivered = nodes.map .ok) : crew.readyTimes = nodes.map ReadyNode.since := by
  rw [readyTimes, h, List.filterMap_map, ← List.filterMap_eq_map]
  rfl

/-- It is not past `now`, and the nodes have come in the order in which they became ready. -/
structure OnTime (crew : Crew) (now : Nat) : Prop where
  clock : crew.clock ≤ now
  sorted : crew.readyTimes.Pairwise (· ≤ ·)
  past : ∀ time ∈ crew.readyTimes, time ≤ now

/-- A task's next move is its first pending event when there is one. -/
theorem times_of_event {moves due : Nat} {event : Event} {later : List (Nat × Event)}
    (hdrop : course.events.drop moves = (due, event) :: later) :
    (times course)[moves]? = some due := by
  have hget := congrArg List.head? hdrop
  rw [List.head?_drop, List.head?_cons] at hget
  obtain ⟨hlt, -⟩ := List.getElem?_eq_some_iff.mp hget
  rw [times, List.getElem?_append_left (by rwa [List.length_map]), List.getElem?_map, hget]
  rfl

/-- Without a pending event, a task's next move is its end. -/
theorem finish_of_times {moves time : Nat} (hdrop : course.events.drop moves = [])
    (htime : (times course)[moves]? = some time) :
    moves = course.events.length ∧ time = course.finish := by
  have hle : course.events.length ≤ moves := List.drop_eq_nil_iff.mp hdrop
  obtain ⟨hlt, -⟩ := List.getElem?_eq_some_iff.mp htime
  rw [times, List.length_append, List.length_map, List.length_singleton] at hlt
  have hmoves : moves = course.events.length := by omega
  rw [times, hmoves, List.getElem?_append_right (Nat.le_of_eq (List.length_map _)),
    List.length_map, Nat.sub_self] at htime
  exact ⟨hmoves, (Option.some.inj htime).symm⟩

/-- The next move of a task moves the clock to its time. It delivers nothing, or it is the end
of the task and delivers the outcome. -/
theorem moveTask_next {crew : Crew} {moves time : Nat}
    (htask : crew.tasks[index]? = some ((taskOf course).after moves))
    (htime : (times course)[moves]? = some time) :
    (crew.moveTask index).clock = max crew.clock time
      ∧ ((crew.moveTask index).delivered = crew.delivered
        ∨ time = course.finish ∧ (crew.moveTask index).delivered
            = crew.delivered ++ (FanIn.message? course.ending).toList) := by
  have hpending : ((taskOf course).after moves).pending = course.events.drop moves := rfl
  cases hdrop : course.events.drop moves with
  | cons first later =>
    obtain ⟨due, event⟩ := first
    rw [hdrop] at hpending
    have hdue : due = time := Option.some.inj ((times_of_event hdrop).symm.trans htime)
    refine ⟨?_, .inl (delivered_moveTask_of_event htask hpending)⟩
    rw [← hdue, moveTask_of_event htask hpending]
  | nil =>
    rw [hdrop] at hpending
    obtain ⟨hmoves, hfinish⟩ := finish_of_times hdrop htime
    have hended : ((taskOf course).after moves).ended = false := by
      show (false || decide (course.events.length < moves)) = false
      rw [Bool.false_or, decide_eq_false_iff_not]
      omega
    refine ⟨?_, .inr ⟨hfinish, delivered_moveTask_of_end htask hpending hended⟩⟩
    rw [hfinish, moveTask_of_end htask hpending hended]
    rfl

namespace OnTime

variable {crew next : Crew} {now later : Nat}

/-- A crew stays on time up to a later time when all the nodes it receives until then are
ready at that time. -/
theorem advance {added : List Nat} (h : OnTime crew now) (hlater : now ≤ later)
    (hclock : next.clock ≤ later) (hready : next.readyTimes = crew.readyTimes ++ added)
    (hadded : ∀ time ∈ added, time = later) : OnTime next later := by
  have hpast : ∀ time ∈ crew.readyTimes, time ≤ later := by
    intro time htime
    exact Nat.le_trans (h.past time htime) hlater
  refine ⟨hclock, ?_, ?_⟩
  · rw [hready]
    refine List.pairwise_append.mpr ⟨h.sorted, ?_, ?_⟩
    · refine List.pairwise_of_forall_mem_list fun first hfirst second hsecond => ?_
      exact Nat.le_of_eq ((hadded first hfirst).trans (hadded second hsecond).symm)
    · intro early hearly late hlate
      rw [hadded late hlate]
      exact hpast early hearly
  · intro time htime
    rw [hready] at htime
    rcases List.mem_append.mp htime with hbefore | hnow
    · exact hpast time hbefore
    · exact Nat.le_of_eq (hadded time hnow)

theorem moveTask {moves time : Nat} (h : OnTime crew now) (hnow : now ≤ time)
    (htask : crew.tasks[index]? = some ((taskOf course).after moves))
    (htime : (times course)[moves]? = some time) (hdated : Dated course) :
    OnTime (crew.moveTask index) time := by
  obtain ⟨hclock, hdelivered⟩ := moveTask_next htask htime
  have hclock' : (crew.moveTask index).clock ≤ time := by
    rw [hclock]
    exact Nat.max_le.mpr ⟨Nat.le_trans h.clock hnow, Nat.le_refl time⟩
  rcases hdelivered with hdelivered | ⟨hfinish, hdelivered⟩
  · have hsame : (crew.moveTask index).readyTimes = crew.readyTimes ++ [] := by
      rw [readyTimes, hdelivered, List.append_nil]
      rfl
    exact h.advance hnow hclock' hsame fun _ hnone => nomatch hnone
  · have hadded : ∃ added, (crew.moveTask index).readyTimes = crew.readyTimes ++ added
        ∧ ∀ ready ∈ added, ready = time := by
      rw [readyTimes, hdelivered, List.filterMap_append]
      refine ⟨_, rfl, fun ready hready => ?_⟩
      cases hending : course.ending with
      | done node =>
        rw [hending] at hready
        rw [hfinish, ← hdated node hending]
        exact List.mem_singleton.mp hready
      | failed failure =>
        rw [hending] at hready
        exact nomatch hready
      | panicked =>
        rw [hending] at hready
        exact nomatch hready
    obtain ⟨added, hready, hadded⟩ := hadded
    exact h.advance hnow hclock' hready hadded

theorem moveCollector (h : OnTime crew now) : OnTime crew.moveCollector now := by
  have hsame : crew.moveCollector.readyTimes = crew.readyTimes ++ [] := by
    rw [readyTimes, delivered_moveCollector, List.append_nil]
    rfl
  exact h.advance (Nat.le_refl now) h.clock hsame fun _ hnone => nomatch hnone

end OnTime

/-- Along an order that keeps to the clock, the nodes come in the order in which they became
ready. -/
theorem Timely.onTime (h : Timely courses (before ++ rest))
    (hdated : ∀ course ∈ courses, Dated course) {now : Nat}
    (hnow : ∀ entry ∈ before, entry.1 ≤ now) : OnTime (along courses before) now := by
  induction before using List.reverseRecOn generalizing rest now with
  | nil =>
    have hdelivered : (along courses []).delivered = [] := by
      cases courses <;> rfl
    have hready : (along courses []).readyTimes = [] := by
      rw [readyTimes, hdelivered]
      rfl
    refine ⟨Nat.zero_le now, ?_, ?_⟩
    · rw [hready]
      exact .nil
    · rw [hready]
      exact fun _ htime => nomatch htime
  | append_singleton before entry ih =>
    obtain ⟨time, index⟩ := entry
    rw [List.append_assoc] at h
    obtain ⟨course, hcourse, htime⟩ := h.next
    have htask := tasks_along courses before index
    rw [hcourse, Option.map_some] at htask
    have hmoved := (ih h h.le_of_mem_before).moveTask (Nat.le_refl time) htask htime
      (hdated course (List.mem_of_getElem? hcourse))
    have hdone := hmoved.moveCollector.moveCollector
    have hlast : time ≤ now := hnow (time, index) (List.mem_append_right _ List.mem_cons_self)
    rw [along_append_singleton]
    exact hdone.advance hlast (Nat.le_trans hdone.clock hlast) (List.append_nil _).symm
      fun _ hnone => nomatch hnone

end

/-! ### The return -/

/-- The collector has two steps after each move of a task, and those are enough. -/
theorem caughtUp_along (courses : List (Course ReadyNode)) (order : List (Nat × Nat)) :
    (along courses order).fanIn.CaughtUp := by
  induction order using List.reverseRecOn with
  | nil => exact FanIn.caughtUp_start courses.length
  | append_singleton before entry ih =>
    rw [along_append_singleton courses before entry.1 entry.2]
    refine FanIn.caughtUp_collect_collect fun hwaits => ?_
    have hresult : (along courses before).result = none := by
      rw [← result_moveTask (along courses before) entry.2]
      exact hwaits
    -- The queue was empty before the move, and the move adds one outcome to it at most.
    obtain ⟨hqueue, -⟩ := ih hresult
    rcases (along courses before).moveTask_cases entry.2 with ⟨he, -⟩ | ⟨_, -, -, -, he⟩
      | ⟨_, _, _, _, -, -, he⟩ | ⟨task, -, -, -, he⟩
    · rw [he, hqueue]
      exact Nat.zero_le 1
    · rw [he, hqueue]
      exact Nat.zero_le 1
    · rw [he]
      show (along courses before).fanIn.channel.queue.length ≤ 1
      rw [hqueue]
      exact Nat.zero_le 1
    · rw [he]
      have hlength := FanIn.length_queue_finish_le (along courses before).fanIn task.ending
      rw [hqueue] at hlength
      exact hlength

theorem kept_along (courses : List (Course ReadyNode)) (order : List (Nat × Nat)) :
    Kept (along courses order) := (Kept.start courses).run _

theorem along_append (courses : List (Course ReadyNode)) (first second : List (Nat × Nat)) :
    along courses (first ++ second) = (along courses first).run (inOrder second) := by
  rw [along, inOrder_append, run_append]
  rfl

section
variable {courses : List (Course ReadyNode)} {order : List (Nat × Nat)}

/-- At the end of the order all tasks have ended. -/
theorem Timely.ended (h : Timely courses order) :
    ∀ task ∈ (along courses order).tasks, task.ended = true := by
  intro task htask
  obtain ⟨index, hindex⟩ := List.mem_iff_getElem?.mp htask
  rw [tasks_along] at hindex
  obtain ⟨course, hcourse, rfl⟩ := Option.map_eq_some_iff.mp hindex
  have hall : Timely courses (order ++ []) := by rwa [List.append_nil]
  exact (hall.ended_iff hcourse).mpr fun _ hentry => nomatch hentry

/-- At the end of the order the collector has returned. -/
theorem Timely.returned (h : Timely courses order) :
    (along courses order).result.isSome = true := by
  cases hresult : (along courses order).result with
  | some result => rfl
  | none =>
    have hrunning := (kept_along courses order).running_eq_zero h.ended
    exact absurd hrunning (caughtUp_along courses order hresult).2

/-- If the collector has returned, there was a move with which it did. -/
theorem exists_returning_move (hne : courses ≠ [])
    (hreturned : (along courses order).result.isSome = true) :
    ∃ before time index after, order = before ++ (time, index) :: after
      ∧ (along courses before).result = none
      ∧ (along courses (before ++ [(time, index)])).result.isSome = true := by
  -- The order is taken from its end: if the collector has returned before the last move, the
  -- move that we look for is among those before.
  induction order using List.reverseRecOn with
  | nil =>
    cases courses with
    | nil => exact absurd rfl hne
    | cons course courses => exact nomatch hreturned
  | append_singleton before entry ih =>
    cases hresult : (along courses before).result with
    | none => exact ⟨before, entry.1, entry.2, [], rfl, hresult, hreturned⟩
    | some result =>
      obtain ⟨earlier, time, index, after, hbefore, hwaits, hsome⟩ := ih (by rw [hresult]; rfl)
      refine ⟨earlier, time, index, after ++ [entry], ?_, hwaits, hsome⟩
      rw [hbefore, List.append_assoc]
      rfl

/-- The collector returns with one of the moves of the order, and at its time. -/
theorem Timely.exists_return (h : Timely courses order)
    (hdated : ∀ course ∈ courses, Dated course) (hne : courses ≠ []) :
    ∃ before time index after, order = before ++ (time, index) :: after
      ∧ (along courses before).result = none
      ∧ (along courses (before ++ [(time, index)])).result = (along courses order).result
      ∧ (along courses order).returnedAt = some time := by
  obtain ⟨before, time, index, after, horder, hwaits, hsome⟩ :=
    exists_returning_move hne h.returned
  have hwhole : along courses order
      = (along courses (before ++ [(time, index)])).run (inOrder after) := by
    rw [← along_append, horder, List.append_assoc]
    rfl
  refine ⟨before, time, index, after, horder, hwaits, ?_, ?_⟩
  · rw [hwhole, result_run_of_isSome hsome]
  rw [hwhole, returnedAt_run_of_isSome hsome]
  -- The clock shows the time of the move when the collector takes its steps.
  rw [horder] at h
  obtain ⟨course, hcourse, htime⟩ := h.next
  have htask := tasks_along courses before index
  rw [hcourse, Option.map_some] at htask
  have hclock : ((along courses before).moveTask index).clock = time := by
    rw [(moveTask_next htask htime).1]
    exact Nat.max_eq_right (h.onTime hdated h.le_of_mem_before).clock
  have hmoved : ((along courses before).moveTask index).result = none := by
    rw [result_moveTask, hwaits]
  rw [along_append_singleton] at hsome ⊢
  cases hfirst : ((along courses before).moveTask index).moveCollector.result with
  | some result =>
    have hfirst' : ((along courses before).moveTask index).moveCollector.result.isSome = true := by
      rw [hfirst]
      rfl
    rw [show ∀ crew : Crew, crew.moveCollector = crew.move .collect from fun _ => rfl]
    rw [returnedAt_move_of_isSome hfirst', returnedAt_moveCollector hmoved hfirst', hclock]
  | none => rw [returnedAt_moveCollector hfirst hsome, clock_moveCollector, hclock]

end

end ClusterProvision.Crew
