import ClusterProvision.Proofs.Crew
import ClusterProvision.Proofs.Sorting

/-!
# `ClusterProvision.Proofs.Journal`: what the journal says about one task

The journal of a crew holds the events of all tasks in the order in which they came. Those of one
task are the first events of its course, whatever the schedule is (`Crew.events_append_toCome`).
Once a task has ended, they are all of them (`Crew.events_of_ended`). So the journal of a run that
is over holds the events of the courses and no others (`Crew.happened_perm`).
-/

set_option autoImplicit false

namespace ClusterProvision

/-- The event of a task that an entry of the journal stands for, with the task and the time. -/
def Entry.event? : Entry → Option (Nat × Nat × Event)
  | .event task time what => some (task, time, what)
  | .ended .. => none
  | .returned _ => none

/-- The calls among events, with their times. -/
def Event.calls (events : List (Nat × Event)) : List (Nat × Call) :=
  events.filterMap fun (time, event) =>
    match event with
    | .called call => some (time, call)
    | .succeeded _ => none

theorem Course.calls_eq {α : Type} (course : Course α) : course.calls = Event.calls course.events :=
  rfl

namespace Crew

/-- The events of all tasks so far, in the order in which they came. -/
def happened (crew : Crew) : List (Nat × Nat × Event) := crew.journal.reverse.filterMap Entry.event?

/-- The events of a task so far, with their times. -/
def events (crew : Crew) (index : Nat) : List (Nat × Event) :=
  (crew.happened.filter (·.1 = index)).map Prod.snd

/-- The events of a task that are still to come, with their times. -/
def toCome (crew : Crew) (index : Nat) : List (Nat × Event) :=
  (crew.tasks[index]?.map Task.pending).getD []

/-- The calls of a task are the calls among its events. -/
theorem calls_eq (crew : Crew) (index : Nat) : crew.calls index = Event.calls (crew.events index) := by
  unfold calls events happened Event.calls
  rw [List.filterMap_map, List.filterMap_filter, List.filterMap_filterMap]
  refine List.filterMap_congr fun entry _ => ?_
  cases entry with
  | event task time what =>
    by_cases htask : task = index <;> cases what <;> simp [Entry.event?, htask]
  | ended task time => rfl
  | returned time => rfl

/-! ### Steps -/

theorem happened_of_journal {crew next : Crew} {entry : Entry}
    (h : next.journal = entry :: crew.journal) :
    next.happened = crew.happened ++ entry.event?.toList := by
  rw [happened, h, List.reverse_cons, List.filterMap_append]
  cases entry <;> rfl

theorem happened_moveCollector (crew : Crew) : crew.moveCollector.happened = crew.happened := by
  have hreturned : ((Entry.returned crew.clock :: crew.journal).reverse.filterMap Entry.event?)
      = crew.journal.reverse.filterMap Entry.event? := by
    simp [Entry.event?]
  unfold moveCollector happened
  dsimp only
  split
  · exact hreturned
  · rfl

theorem toCome_of_task {crew : Crew} {index : Nat} {task : Task}
    (h : crew.tasks[index]? = some task) : crew.toCome index = task.pending := by
  rw [toCome, h]
  rfl

/-- A move of a task brings the first of the events that are to come for it, if there is one. -/
theorem happened_moveTask (crew : Crew) (index : Nat) :
    (crew.moveTask index).happened
      = crew.happened ++ ((crew.toCome index).take 1).map fun entry => (index, entry) := by
  rcases crew.moveTask_cases index with ⟨he, hnone⟩ | ⟨task, htask, hpending, -, he⟩
    | ⟨task, time, event, rest, htask, hpending, he⟩ | ⟨task, htask, hpending, -, he⟩
  · rw [he, toCome, hnone]
    simp
  · rw [he, toCome_of_task htask, hpending]
    simp
  · rw [happened_of_journal (show _ = .event index time event :: crew.journal by rw [he]),
      toCome_of_task htask, hpending]
    rfl
  · rw [happened_of_journal (show _ = .ended index task.finish :: crew.journal by rw [he]),
      toCome_of_task htask, hpending]
    rfl

theorem toCome_moveTask (crew : Crew) (moved index : Nat) :
    (crew.moveTask moved).toCome index
      = if moved = index then (crew.toCome index).drop 1 else crew.toCome index := by
  unfold toCome
  rw [tasks_moveTask, List.getElem?_modify]
  by_cases hindex : moved = index
  · cases crew.tasks[index]? <;> simp [hindex, Task.after]
  · simp [hindex]

/-- The event that a move of a task brings goes from the front of what is to come for the task to
the end of what has been. The other tasks have no part in that. -/
theorem events_append_toCome_moveTask (crew : Crew) (moved index : Nat) :
    (crew.moveTask moved).events index ++ (crew.moveTask moved).toCome index
      = crew.events index ++ crew.toCome index := by
  unfold events
  rw [happened_moveTask, toCome_moveTask, List.filter_append, List.map_append]
  by_cases hindex : moved = index
  · subst hindex
    cases crew.toCome moved <;> simp
  · cases crew.toCome moved <;> simp [hindex]

theorem events_append_toCome_moveCollector (crew : Crew) (index : Nat) :
    crew.moveCollector.events index ++ crew.moveCollector.toCome index
      = crew.events index ++ crew.toCome index := by
  unfold events toCome
  rw [happened_moveCollector, tasks_moveCollector]

/-! ### Runs -/

/-- No schedule changes which events a task has, those to come included. -/
theorem events_append_toCome_run (crew : Crew) (schedule : List Move) (index : Nat) :
    (crew.run schedule).events index ++ (crew.run schedule).toCome index
      = crew.events index ++ crew.toCome index := by
  induction schedule generalizing crew with
  | nil => rfl
  | cons move schedule ih =>
    rw [run_cons, ih]
    cases move with
    | task moved => exact crew.events_append_toCome_moveTask moved index
    | collect => exact crew.events_append_toCome_moveCollector index

section
variable (courses : List (Course ReadyNode)) (schedule : List Move) (index : Nat)

/-- After every schedule, the events of a task and those to come for it are those of its
course. -/
theorem events_append_toCome :
    ((Crew.start courses).run schedule).events index
        ++ ((Crew.start courses).run schedule).toCome index
      = (courses[index]?.map Course.events).getD [] := by
  have hhappened : (Crew.start courses).happened = [] := by
    cases courses <;> rfl
  have htasks : (Crew.start courses).tasks[index]? = courses[index]?.map taskOf := List.getElem?_map
  rw [events_append_toCome_run, events, hhappened, toCome, htasks, Option.map_map]
  rfl

/-- A task that has ended has no event to come. -/
theorem toCome_of_ended
    (hended : ∀ task ∈ ((Crew.start courses).run schedule).tasks, task.ended = true) :
    ((Crew.start courses).run schedule).toCome index = [] := by
  unfold toCome
  cases htask : ((Crew.start courses).run schedule).tasks[index]? with
  | none => rfl
  | some task =>
    have hover := hended task (List.mem_of_getElem? htask)
    rw [tasks_run] at htask
    obtain ⟨first, hfirst, rfl⟩ := Option.map_eq_some_iff.mp htask
    have hstart : (courses.map taskOf)[index]? = some first := hfirst
    rw [List.getElem?_map] at hstart
    obtain ⟨course, -, rfl⟩ := Option.map_eq_some_iff.mp hstart
    -- The move that ends a task comes after its last event.
    have hmoves : (taskOf course).pending.length < schedule.count (.task index) := by
      have hdecided : decide ((taskOf course).pending.length < schedule.count (.task index)) = true :=
        hover
      exact of_decide_eq_true hdecided
    show (taskOf course).pending.drop _ = []
    exact List.drop_eq_nil_of_le (Nat.le_of_lt hmoves)

/-- When all tasks have ended, the events of a task are those of its course. -/
theorem events_of_ended
    (hended : ∀ task ∈ ((Crew.start courses).run schedule).tasks, task.ended = true) :
    ((Crew.start courses).run schedule).events index
      = (courses[index]?.map Course.events).getD [] := by
  have hall := events_append_toCome courses schedule index
  rwa [toCome_of_ended courses schedule index hended, List.append_nil] at hall

theorem calls_of_ended
    (hended : ∀ task ∈ ((Crew.start courses).run schedule).tasks, task.ended = true) :
    ((Crew.start courses).run schedule).calls index
      = (courses[index]?.map Course.calls).getD [] := by
  rw [calls_eq, events_of_ended courses schedule index hended]
  cases courses[index]? <;> rfl

end

end Crew
end ClusterProvision
