import ClusterProvision.Crew
import ClusterProvision.Proofs.FanIn
import Mathlib.Data.List.Perm.Basic

/-!
# `ClusterProvision.Proofs.Crew`: what every schedule keeps

A schedule is any sequence of moves. Two facts hold after every one of them:

* `tasks_run`: a task is as far as its own moves have taken it (`Task.after`). Neither the
  other tasks nor the collector have a part in that.
* `Kept.run`: the collector's books are right (`FanIn.Books`), it knows how many tasks are
  running, and the outcomes delivered are those of the tasks that have ended.

`moveTask_cases` says what a move of a task can be, and each fact has one lemma for a move
of a task and one for a move of the collector.
-/

set_option autoImplicit false

namespace ClusterProvision

/-- The name and the role of a ready node. -/
def ReadyNode.node (ready : ReadyNode) : String × Role := (ready.name, ready.role)

/-- A task after a number of its moves: that many events have come, and the move after the
last of them has been its end. -/
def Task.after (task : Task) (moves : Nat) : Task :=
  { task with
    pending := task.pending.drop moves
    ended := task.ended || decide (task.pending.length < moves) }

namespace Task

@[simp]
theorem after_zero (task : Task) : task.after 0 = task := by
  simp [after]

theorem after_after (task : Task) (m n : Nat) : (task.after m).after n = task.after (m + n) := by
  have hended : (decide (task.pending.length < m) || decide (task.pending.length - m < n))
      = decide (task.pending.length < m + n) := by
    rw [← Bool.decide_or, decide_eq_decide]
    omega
  simp [after, List.drop_drop, Bool.or_assoc, hended]

@[simp]
theorem ending_after (task : Task) (moves : Nat) : (task.after moves).ending = task.ending := rfl

/-- The outcome that a task has delivered, if it has delivered one. -/
def delivered? (task : Task) : Option (Except Failure ReadyNode) :=
  if task.ended then FanIn.message? task.ending else none

end Task

namespace Crew

/-! ### What a move of a task can be -/

theorem moveTask_of_event {crew : Crew} {index time : Nat} {task : Task} {event : Event}
    {rest : List (Nat × Event)} (htask : crew.tasks[index]? = some task)
    (hpending : task.pending = (time, event) :: rest) :
    crew.moveTask index =
      { crew with
        tasks := crew.tasks.set index { task with pending := rest }
        clock := max crew.clock time
        journal := .event index time event :: crew.journal } := by
  simp [moveTask, htask, hpending]

theorem moveTask_of_end {crew : Crew} {index : Nat} {task : Task}
    (htask : crew.tasks[index]? = some task) (hpending : task.pending = [])
    (hended : task.ended = false) :
    crew.moveTask index =
      { crew with
        tasks := crew.tasks.set index { task with ended := true }
        clock := max crew.clock task.finish
        fanIn := crew.fanIn.finish task.ending
        journal := .ended index task.finish :: crew.journal } := by
  simp [moveTask, htask, hpending, hended]

/-- A move of a task: there is no such task, or it has ended; its next event comes; or it
ends. -/
theorem moveTask_cases (crew : Crew) (index : Nat) :
    (crew.moveTask index = crew ∧ crew.tasks[index]? = none) ∨
    (∃ task, crew.tasks[index]? = some task ∧ task.pending = [] ∧ task.ended = true
      ∧ crew.moveTask index = crew) ∨
    (∃ task time event rest, crew.tasks[index]? = some task
      ∧ task.pending = (time, event) :: rest
      ∧ crew.moveTask index =
        { crew with
          tasks := crew.tasks.set index { task with pending := rest }
          clock := max crew.clock time
          journal := .event index time event :: crew.journal }) ∨
    (∃ task, crew.tasks[index]? = some task ∧ task.pending = [] ∧ task.ended = false
      ∧ crew.moveTask index =
        { crew with
          tasks := crew.tasks.set index { task with ended := true }
          clock := max crew.clock task.finish
          fanIn := crew.fanIn.finish task.ending
          journal := .ended index task.finish :: crew.journal }) := by
  cases htask : crew.tasks[index]? with
  | none => exact .inl ⟨by simp [moveTask, htask], rfl⟩
  | some task =>
    cases hpending : task.pending with
    | cons first rest =>
      obtain ⟨time, event⟩ := first
      exact .inr (.inr (.inl ⟨task, time, event, rest, rfl, hpending,
        moveTask_of_event htask hpending⟩))
    | nil =>
      cases hended : task.ended with
      | true =>
        exact .inr (.inl ⟨task, rfl, hpending, hended,
          by simp [moveTask, htask, hpending, hended]⟩)
      | false =>
        exact .inr (.inr (.inr ⟨task, rfl, hpending, hended,
          moveTask_of_end htask hpending hended⟩))

/-- Putting a task into the place of one is changing the one that is there. -/
theorem set_eq_modify {tasks : List Task} {index : Nat} {task : Task} (f : Task → Task)
    (h : tasks[index]? = some task) : tasks.set index (f task) = tasks.modify index f := by
  obtain ⟨hlt, rfl⟩ := List.getElem?_eq_some_iff.mp h
  refine List.ext_getElem? fun place => ?_
  rw [List.getElem?_set, List.getElem?_modify]
  by_cases hplace : index = place
  · subst hplace
    simp [hlt]
  · simp [hplace]

/-- A move of a task takes that task one step further. -/
theorem tasks_moveTask (crew : Crew) (index : Nat) :
    (crew.moveTask index).tasks = crew.tasks.modify index (·.after 1) := by
  rcases crew.moveTask_cases index with ⟨he, hnone⟩ | ⟨task, htask, hpending, hended, he⟩
    | ⟨task, time, event, rest, htask, hpending, he⟩ | ⟨task, htask, hpending, hended, he⟩
  · rw [he, List.modify_eq_self (List.getElem?_eq_none_iff.mp hnone)]
  · have hafter : task.after 1 = task := by
      obtain ⟨pending, finish, ending, ended⟩ := task
      simp_all [Task.after]
    obtain ⟨hlt, heq⟩ := List.getElem?_eq_some_iff.mp htask
    rw [he, ← set_eq_modify _ htask, hafter, ← heq, List.set_getElem_self]
  · have hafter : task.after 1 = { task with pending := rest } := by
      simp [Task.after, hpending]
    rw [he, ← set_eq_modify _ htask, hafter]
  · have hafter : task.after 1 = { task with ended := true } := by
      simp [Task.after, hpending]
    rw [he, ← set_eq_modify _ htask, hafter]

@[simp]
theorem tasks_moveCollector (crew : Crew) : crew.moveCollector.tasks = crew.tasks := rfl

@[simp]
theorem run_nil (crew : Crew) : crew.run [] = crew := rfl

theorem run_cons (crew : Crew) (move : Move) (schedule : List Move) :
    crew.run (move :: schedule) = (crew.move move).run schedule := rfl

theorem run_append (crew : Crew) (first second : List Move) :
    crew.run (first ++ second) = (crew.run first).run second := List.foldl_append

/-- After every schedule a task is as far as its own moves have taken it. -/
theorem tasks_run (crew : Crew) (schedule : List Move) (index : Nat) :
    (crew.run schedule).tasks[index]?
      = crew.tasks[index]?.map (·.after (schedule.count (.task index))) := by
  induction schedule generalizing crew with
  | nil => simp
  | cons move schedule ih =>
    rw [run_cons, ih]
    cases move with
    | collect => simp [Crew.move]
    | task moved =>
      rw [Crew.move, tasks_moveTask]
      by_cases hmoved : moved = index
      · -- The first of its moves and those after it add up.
        subst hmoved
        rw [List.getElem?_modify_eq, Option.map_eq_map, Option.map_map, List.count_cons_self]
        congr 1
        funext task
        rw [Function.comp, Task.after_after, Nat.add_comm]
      · rw [List.getElem?_modify_ne _ _ hmoved, List.count_cons_of_ne]
        exact fun h => hmoved (Move.task.inj h)

/-! ### The result -/

@[simp]
theorem result_moveTask (crew : Crew) (index : Nat) :
    (crew.moveTask index).result = crew.result := by
  rcases crew.moveTask_cases index with ⟨he, -⟩ | ⟨_, -, -, -, he⟩ | ⟨_, _, _, _, -, -, he⟩
    | ⟨_, -, -, -, he⟩ <;> rw [he] <;> rfl

/-- A move changes nothing about a result that has been returned. -/
theorem result_move_of_isSome {crew : Crew} (h : crew.result.isSome = true) (move : Move) :
    (crew.move move).result = crew.result := by
  cases move with
  | task index => exact crew.result_moveTask index
  | collect => exact congrArg FanIn.result (FanIn.collect_of_isSome h)

/-- What the collector has returned, it has returned for good. -/
theorem result_run_of_isSome {crew : Crew} (h : crew.result.isSome = true)
    (schedule : List Move) : (crew.run schedule).result = crew.result := by
  induction schedule generalizing crew with
  | nil => rfl
  | cons move schedule ih =>
    have hmove := result_move_of_isSome h move
    rw [run_cons, ih (by rw [hmove]; exact h), hmove]

/-- When no task is running, the collector returns after it has emptied the queue. -/
theorem isSome_run_collect {crew : Crew} (hended : crew.fanIn.running = 0) {steps : Nat}
    (hsteps : crew.fanIn.channel.queue.length < steps) :
    (crew.run (List.replicate steps .collect)).result.isSome = true := by
  -- A step that does not bring the return makes the queue shorter, so the bound is kept.
  induction steps generalizing crew with
  | zero => exact absurd hsteps (Nat.not_lt_zero _)
  | succ steps ih =>
    rw [List.replicate_succ, run_cons]
    cases hresult : crew.result with
    | some result =>
      have hmove := result_move_of_isSome (by rw [hresult]; rfl) .collect
      rw [result_run_of_isSome (by rw [hmove, hresult]; rfl), hmove, hresult]
      rfl
    | none =>
      rcases FanIn.collect_of_allEnded hresult hended with hreturned | ⟨hrunning, hqueue⟩
      · have hmoved : (crew.move .collect).result.isSome = true := hreturned
        rw [result_run_of_isSome hmoved]
        exact hmoved
      · have hmoved : (crew.move .collect).fanIn.running = 0 := hrunning
        refine ih hmoved ?_
        show crew.fanIn.collect.channel.queue.length < steps
        omega

/-! ### The time of the return -/

@[simp]
theorem clock_moveCollector (crew : Crew) : crew.moveCollector.clock = crew.clock := rfl

@[simp]
theorem returnedAt_moveTask (crew : Crew) (index : Nat) :
    (crew.moveTask index).returnedAt = crew.returnedAt := by
  rcases crew.moveTask_cases index with ⟨he, -⟩ | ⟨_, -, -, -, he⟩ | ⟨_, _, _, _, -, -, he⟩
    | ⟨_, -, -, -, he⟩ <;> rw [he] <;> rfl

/-- The collector writes down that it returns, when it does. -/
theorem journal_moveCollector {crew : Crew} (hwaits : crew.result = none)
    (hreturns : crew.moveCollector.result.isSome = true) :
    crew.moveCollector.journal = .returned crew.clock :: crew.journal := by
  have hnone : crew.fanIn.result = none := hwaits
  have hsome : crew.fanIn.collect.result.isSome = true := hreturns
  simp [moveCollector, hnone, hsome]

/-- The collector returns at the time on the clock. -/
theorem returnedAt_moveCollector {crew : Crew} (hwaits : crew.result = none)
    (hreturns : crew.moveCollector.result.isSome = true) :
    crew.moveCollector.returnedAt = some crew.clock := by
  rw [returnedAt, journal_moveCollector hwaits hreturns]
  rfl

/-- A collector that has returned does so only once. -/
theorem returnedAt_move_of_isSome {crew : Crew} (h : crew.result.isSome = true) (move : Move) :
    (crew.move move).returnedAt = crew.returnedAt := by
  cases move with
  | task index => exact crew.returnedAt_moveTask index
  | collect =>
    have hnone : crew.fanIn.result.isNone = false := by
      rw [← Bool.not_eq_true, Option.isNone_iff_eq_none, ← ne_eq, ← Option.isSome_iff_ne_none]
      exact h
    have hjournal : crew.moveCollector.journal = crew.journal := by simp [moveCollector, hnone]
    rw [Crew.move, returnedAt, hjournal]
    rfl

theorem returnedAt_run_of_isSome {crew : Crew} (h : crew.result.isSome = true)
    (schedule : List Move) : (crew.run schedule).returnedAt = crew.returnedAt := by
  induction schedule generalizing crew with
  | nil => rfl
  | cons move schedule ih =>
    have hmove := result_move_of_isSome h move
    rw [run_cons, ih (by rw [hmove]; exact h), returnedAt_move_of_isSome h]

/-! ### What is delivered -/

theorem outcome?_moveTask (crew : Crew) (moved : Nat) :
    (crew.moveTask moved).outcome? = crew.outcome? := by
  funext index
  unfold outcome?
  rw [tasks_moveTask, List.getElem?_modify]
  by_cases h : moved = index <;> cases crew.tasks[index]? <;> simp [h]

/-- What a new entry of the journal adds to the delivered outcomes. -/
theorem delivered_of_journal (crew next : Crew) (entry : Entry)
    (hjournal : next.journal = entry :: crew.journal) (houtcome : next.outcome? = crew.outcome?) :
    next.delivered = crew.delivered ++
      (match entry with
        | .ended task _ => crew.outcome? task
        | _ => none).toList := by
  unfold delivered
  rw [hjournal, houtcome, List.reverse_cons, List.filterMap_append]
  congr 1

/-- An event of a task delivers nothing. -/
theorem delivered_moveTask_of_event {crew : Crew} {index time : Nat} {task : Task} {event : Event}
    {rest : List (Nat × Event)} (htask : crew.tasks[index]? = some task)
    (hpending : task.pending = (time, event) :: rest) :
    (crew.moveTask index).delivered = crew.delivered := by
  have hjournal : (crew.moveTask index).journal = .event index time event :: crew.journal := by
    rw [moveTask_of_event htask hpending]
  exact (delivered_of_journal crew _ _ hjournal (crew.outcome?_moveTask index)).trans
    (List.append_nil _)

/-- The end of a task delivers the task's outcome. -/
theorem delivered_moveTask_of_end {crew : Crew} {index : Nat} {task : Task}
    (htask : crew.tasks[index]? = some task) (hpending : task.pending = [])
    (hended : task.ended = false) :
    (crew.moveTask index).delivered
      = crew.delivered ++ (FanIn.message? task.ending).toList := by
  have hjournal : (crew.moveTask index).journal = .ended index task.finish :: crew.journal := by
    rw [moveTask_of_end htask hpending hended]
  have houtcome : crew.outcome? index = FanIn.message? task.ending := by
    rw [outcome?, htask, Option.bind_some]
  rw [← houtcome]
  exact delivered_of_journal crew _ _ hjournal (crew.outcome?_moveTask index)

@[simp]
theorem delivered_moveCollector (crew : Crew) : crew.moveCollector.delivered = crew.delivered := by
  unfold moveCollector
  dsimp only
  split
  · refine (delivered_of_journal crew _ (.returned crew.clock) ?_ ?_).trans (List.append_nil _)
    · rfl
    · rfl
  · rfl

/-- A task in a list, and the list with another task in its place. -/
theorem exists_split {tasks : List Task} {index : Nat} {task : Task}
    (h : tasks[index]? = some task) :
    ∃ before later, tasks = before ++ task :: later
      ∧ ∀ other, tasks.set index other = before ++ other :: later := by
  obtain ⟨hlt, heq⟩ := List.getElem?_eq_some_iff.mp h
  refine ⟨tasks.take index, tasks.drop (index + 1), ?_, fun other => ?_⟩
  · rw [← heq, List.getElem_cons_drop, List.take_append_drop]
  · exact List.set_eq_take_append_cons_drop.trans (if_pos hlt)

private theorem filterMap_delivered_split (before later : List Task) (task : Task) :
    (before ++ task :: later).filterMap Task.delivered? = before.filterMap Task.delivered?
      ++ (task.delivered?.toList ++ later.filterMap Task.delivered?) := by
  rw [List.filterMap_append, List.filterMap_cons]
  cases task.delivered? <;> rfl

/-- What every schedule keeps: the collector's books are right, it knows how many tasks
there are and how many of them are running, and what has been delivered is what the tasks
that have ended had to deliver. -/
structure Kept (crew : Crew) : Prop where
  books : crew.fanIn.Books crew.delivered
  expected : crew.fanIn.expected = crew.tasks.length
  running : crew.fanIn.running = crew.tasks.countP (!·.ended)
  outcomes : crew.delivered.Perm (crew.tasks.filterMap Task.delivered?)

namespace Kept

/-- At the start all tasks are running. -/
theorem start (courses : List (Course ReadyNode)) : Kept (Crew.start courses) := by
  have hdelivered : (Crew.start courses).delivered = [] := by
    cases courses <;> rfl
  refine ⟨?_, ?_, ?_, ?_⟩
  · rw [hdelivered]
    exact FanIn.Books.start courses.length
  · exact (List.length_map taskOf).symm
  · show courses.length = (courses.map taskOf).countP (!·.ended)
    rw [List.countP_map]
    exact (List.countP_eq_length.mpr fun _ _ => rfl).symm
  · rw [hdelivered]
    show List.Perm [] ((courses.map taskOf).filterMap Task.delivered?)
    rw [List.filterMap_map]
    exact .of_eq (List.filterMap_eq_nil_iff.mpr fun _ _ => rfl).symm

/-- An event changes neither what is delivered nor how many tasks are running. -/
theorem event {crew : Crew} (h : Kept crew) {index time : Nat} {task : Task} {event : Event}
    {rest : List (Nat × Event)} (htask : crew.tasks[index]? = some task)
    (hpending : task.pending = (time, event) :: rest) : Kept (crew.moveTask index) := by
  have he := moveTask_of_event htask hpending
  have hdelivered := delivered_moveTask_of_event htask hpending
  obtain ⟨before, later, htasks, hset⟩ := exists_split htask
  refine ⟨?_, ?_, ?_, ?_⟩
  · rw [hdelivered, he]
    exact h.books
  · rw [he]
    exact h.expected.trans List.length_set.symm
  · rw [he]
    show crew.fanIn.running = (crew.tasks.set index _).countP _
    rw [hset, h.running, htasks, List.countP_append, List.countP_append, List.countP_cons,
      List.countP_cons]
  · rw [hdelivered, he]
    show crew.delivered.Perm ((crew.tasks.set index _).filterMap Task.delivered?)
    have houtcomes := h.outcomes
    rw [htasks, filterMap_delivered_split] at houtcomes
    rw [hset, filterMap_delivered_split]
    exact houtcomes

/-- The end of a task takes it off the running ones and delivers its outcome. -/
theorem finish {crew : Crew} (h : Kept crew) {index : Nat} {task : Task}
    (htask : crew.tasks[index]? = some task) (hpending : task.pending = [])
    (hended : task.ended = false) : Kept (crew.moveTask index) := by
  have he := moveTask_of_end htask hpending hended
  have hdelivered := delivered_moveTask_of_end htask hpending hended
  obtain ⟨before, later, htasks, hset⟩ := exists_split htask
  have hrunning := h.running
  rw [htasks, List.countP_append, List.countP_cons] at hrunning
  simp only [hended, Bool.not_false, if_true] at hrunning
  refine ⟨?_, ?_, ?_, ?_⟩
  · rw [hdelivered, he]
    exact h.books.finish (by omega) task.ending
  · rw [he]
    exact h.expected.trans List.length_set.symm
  · rw [he]
    show crew.fanIn.running - 1 = (crew.tasks.set index _).countP _
    rw [hset, List.countP_append, List.countP_cons]
    simp only [Bool.not_true, Bool.false_eq_true, if_false]
    omega
  · -- The journal has the outcome at the end, the list of tasks at the task's place.
    rw [hdelivered, he]
    show List.Perm _ ((crew.tasks.set index _).filterMap Task.delivered?)
    have houtcomes := h.outcomes
    have hbefore : task.delivered? = none := by rw [Task.delivered?, hended]; rfl
    rw [htasks, filterMap_delivered_split, hbefore, Option.toList_none, List.nil_append]
      at houtcomes
    rw [hset, filterMap_delivered_split]
    refine (houtcomes.append_right _).trans ?_
    rw [List.append_assoc]
    exact List.perm_append_comm.append_left _

theorem moveTask {crew : Crew} (h : Kept crew) (index : Nat) : Kept (crew.moveTask index) := by
  rcases crew.moveTask_cases index with ⟨he, -⟩ | ⟨task, -, -, -, he⟩
    | ⟨task, time, event, rest, htask, hpending, -⟩ | ⟨task, htask, hpending, hended, -⟩
  · rw [he]
    exact h
  · rw [he]
    exact h
  · exact h.event htask hpending
  · exact h.finish htask hpending hended

theorem moveCollector {crew : Crew} (h : Kept crew) : Kept crew.moveCollector where
  books := by
    rw [delivered_moveCollector]
    exact h.books.collect
  expected := (FanIn.expected_collect crew.fanIn).trans h.expected
  running := (FanIn.running_collect crew.fanIn).trans h.running
  outcomes := by
    rw [delivered_moveCollector]
    exact h.outcomes

theorem run {crew : Crew} (h : Kept crew) (schedule : List Move) : Kept (crew.run schedule) := by
  induction schedule generalizing crew with
  | nil => exact h
  | cons move schedule ih =>
    rw [run_cons]
    cases move with
    | task index => exact ih (h.moveTask index)
    | collect => exact ih h.moveCollector

/-- When no task is running, all tasks have ended. -/
theorem ended_of_running_eq_zero {crew : Crew} (h : Kept crew) (hzero : crew.fanIn.running = 0) :
    ∀ task ∈ crew.tasks, task.ended = true := by
  intro task htask
  have hcount := h.running
  rw [hzero] at hcount
  simpa using List.countP_eq_zero.mp hcount.symm task htask

/-- When all tasks have ended, no task is running. -/
theorem running_eq_zero {crew : Crew} (h : Kept crew)
    (hended : ∀ task ∈ crew.tasks, task.ended = true) : crew.fanIn.running = 0 := by
  rw [h.running, List.countP_eq_zero]
  intro task htask
  simp [hended task htask]

/-- A delivered failure is that of a task that has ended. -/
theorem exists_of_error_mem {crew : Crew} (h : Kept crew) {failure : Failure}
    (hmem : .error failure ∈ crew.delivered) :
    ∃ task ∈ crew.tasks, task.ended = true ∧ task.ending = .failed failure := by
  obtain ⟨task, htask, hdelivered⟩ := List.mem_filterMap.mp (h.outcomes.mem_iff.mp hmem)
  refine ⟨task, htask, ?_⟩
  unfold Task.delivered? at hdelivered
  split at hdelivered
  · rename_i hended
    refine ⟨hended, ?_⟩
    cases hending : task.ending with
    | done node => rw [hending] at hdelivered; exact nomatch hdelivered
    | failed other => rw [hending] at hdelivered; cases hdelivered; rfl
    | panicked => rw [hending] at hdelivered; exact nomatch hdelivered
  · exact nomatch hdelivered

/-- A task that has ended with a failure has delivered it. -/
theorem error_mem_of_ended {crew : Crew} (h : Kept crew) {task : Task} (htask : task ∈ crew.tasks)
    (hended : task.ended = true) {failure : Failure} (hfailed : task.ending = .failed failure) :
    .error failure ∈ crew.delivered := by
  rw [h.outcomes.mem_iff, List.mem_filterMap]
  refine ⟨task, htask, ?_⟩
  rw [Task.delivered?, if_pos hended, hfailed]
  rfl

/-- When all tasks have ended, each of them has delivered what it had to. -/
theorem outcomes_of_ended {crew : Crew} (h : Kept crew)
    (hended : ∀ task ∈ crew.tasks, task.ended = true) :
    crew.delivered.Perm ((crew.tasks.map Task.ending).filterMap FanIn.message?) := by
  refine h.outcomes.trans (.of_eq ?_)
  rw [List.filterMap_map]
  refine List.filterMap_congr fun task htask => ?_
  exact if_pos (hended task htask)

/-- While the collector waits, what has been delivered has been received or is in the
queue. -/
theorem delivered_of_none {crew : Crew} (h : Kept crew) (hresult : crew.result = none) :
    crew.delivered = crew.fanIn.received.map .ok ++ crew.fanIn.channel.queue := by
  have haccounts := h.books.accounts
  rw [FanIn.Accounts, show crew.fanIn.result = none from hresult] at haccounts
  exact haccounts.2.2

/-- Nodes that the collector has returned are all that was delivered, one by every task. -/
theorem delivered_of_ok {crew : Crew} (h : Kept crew) {nodes : List ReadyNode}
    (hresult : crew.result = some (.ok nodes)) :
    crew.delivered = nodes.map .ok ∧ nodes.length = crew.tasks.length
      ∧ ∀ task ∈ crew.tasks, task.ended = true := by
  have haccounts := h.books.accounts
  rw [FanIn.Accounts, show crew.fanIn.result = some (.ok nodes) from hresult] at haccounts
  obtain ⟨hlength, hdelivered⟩ := haccounts
  refine ⟨hdelivered, hlength.trans h.expected, h.ended_of_running_eq_zero ?_⟩
  -- There is an outcome from every task, so none can be running.
  have hbound := h.books.bound
  rw [hdelivered, List.length_map] at hbound
  omega

/-- A failure that the collector has returned was the first one delivered, or it says that
the run was aborted. -/
theorem delivered_of_error {crew : Crew} (h : Kept crew) {failure : Failure}
    (hresult : crew.result = some (.error failure)) :
    (∃ later, crew.delivered = crew.fanIn.received.map .ok ++ .error failure :: later) ∨
    (failure = .aborted crew.tasks.length crew.fanIn.received.length
      ∧ crew.delivered = crew.fanIn.received.map .ok
      ∧ crew.fanIn.received.length < crew.tasks.length
      ∧ ∀ task ∈ crew.tasks, task.ended = true) := by
  have haccounts := h.books.accounts
  rw [FanIn.Accounts, show crew.fanIn.result = some (.error failure) from hresult] at haccounts
  rcases haccounts with hfirst | ⟨hfailure, haborted⟩
  · exact .inl hfirst
  · refine .inr ⟨?_, haborted.results, ?_, h.ended_of_running_eq_zero haborted.allEnded⟩
    · rw [hfailure, h.expected]
    · rw [← h.expected]
      exact haborted.missing

/-- When the outcomes of all tasks are results, no task has failed. -/
theorem not_failed {crew : Crew} (h : Kept crew) (hended : ∀ task ∈ crew.tasks, task.ended = true)
    {nodes : List ReadyNode} (hdelivered : crew.delivered = nodes.map .ok) {task : Task}
    (htask : task ∈ crew.tasks) (failure : Failure) : task.ending ≠ .failed failure := by
  intro hfailed
  have hmem := h.error_mem_of_ended htask (hended task htask) hfailed
  rw [hdelivered, List.mem_map] at hmem
  obtain ⟨node, -, hnode⟩ := hmem
  exact nomatch hnode

/-- When all tasks have ended, those that have delivered nothing have panicked. -/
theorem length_delivered_add_panicked {crew : Crew} (h : Kept crew)
    (hended : ∀ task ∈ crew.tasks, task.ended = true) :
    crew.delivered.length + crew.tasks.countP (·.ending = .panicked) = crew.tasks.length := by
  rw [(h.outcomes_of_ended hended).length_eq]
  have hlength := FanIn.length_filterMap_message? (crew.tasks.map Task.ending)
  rwa [List.countP_map, List.length_map] at hlength

/-- When every task has delivered a node, every task has got done. -/
theorem done_of_all {crew : Crew} (h : Kept crew) (hended : ∀ task ∈ crew.tasks, task.ended = true)
    {nodes : List ReadyNode} (hdelivered : crew.delivered = nodes.map .ok)
    (hall : nodes.length = crew.tasks.length) {task : Task} (htask : task ∈ crew.tasks) :
    ∃ node, task.ending = .done node := by
  have hpanicked := h.length_delivered_add_panicked hended
  rw [hdelivered, List.length_map, hall] at hpanicked
  cases hending : task.ending with
  | done node => exact ⟨node, rfl⟩
  | failed failure => exact absurd hending (h.not_failed hended hdelivered htask failure)
  | panicked =>
    have hzero : crew.tasks.countP (·.ending = .panicked) = 0 := by omega
    exact absurd (decide_eq_true hending) (List.countP_eq_zero.mp hzero task htask)

/-- A collector that has returned has returned nodes exactly if all tasks get done. -/
theorem ok_iff_done {crew : Crew} (h : Kept crew) {result : Except Failure (List ReadyNode)}
    (hresult : crew.result = some result) :
    (∃ nodes, result = .ok nodes) ↔ ∀ task ∈ crew.tasks, ∃ node, task.ending = .done node := by
  cases result with
  | ok nodes =>
    obtain ⟨hdelivered, hall, hended⟩ := h.delivered_of_ok hresult
    constructor
    · intro _ task htask
      exact h.done_of_all hended hdelivered hall htask
    · intro _
      exact ⟨nodes, rfl⟩
  | error failure =>
    refine ⟨fun ⟨_, hok⟩ => (nomatch hok), fun hdone => ?_⟩
    rcases h.delivered_of_error hresult with ⟨later, hdelivered⟩ | ⟨-, hdelivered, hmissing, hended⟩
    · -- The failure would be that of a task.
      have hmem : .error failure ∈ crew.delivered := by
        rw [hdelivered]
        exact List.mem_append_right _ List.mem_cons_self
      obtain ⟨task, htask, -, hfailed⟩ := h.exists_of_error_mem hmem
      obtain ⟨node, hnode⟩ := hdone task htask
      rw [hfailed] at hnode
      exact nomatch hnode
    · -- A task that has delivered nothing would have panicked.
      have hpanicked := h.length_delivered_add_panicked hended
      rw [hdelivered, List.length_map] at hpanicked
      obtain ⟨task, htask, hending⟩ := List.countP_pos_iff.mp
        (show 0 < crew.tasks.countP (·.ending = .panicked) by omega)
      obtain ⟨node, hnode⟩ := hdone task htask
      rw [of_decide_eq_true hending] at hnode
      exact nomatch hnode

/-- When all tasks have ended with nodes, what has been delivered is these nodes. -/
theorem perm_of_done {crew : Crew} (h : Kept crew)
    (hended : ∀ task ∈ crew.tasks, task.ended = true) {nodes expected : List ReadyNode}
    (hdelivered : crew.delivered = nodes.map .ok)
    (hdone : crew.tasks.map Task.ending = expected.map .done) : nodes.Perm expected := by
  -- Both lists are mapped by `Except.ok`, which does not identify nodes.
  have houtcomes := h.outcomes_of_ended hended
  have hmessages : (expected.map Ending.done).filterMap FanIn.message? = expected.map .ok := by
    rw [List.filterMap_map, ← List.filterMap_eq_map]
    rfl
  rw [hdelivered, hdone, hmessages] at houtcomes
  exact (List.map_perm_map_iff fun _ _ => Except.ok.inj).mp houtcomes

end Kept

/-! ### How the tasks of a run end -/

section
variable (courses : List (Course ReadyNode)) (schedule : List Move)

/-- No schedule changes how the tasks end. -/
theorem endings_run :
    ((Crew.start courses).run schedule).tasks.map Task.ending = courses.map Course.ending := by
  refine List.ext_getElem? fun index => ?_
  rw [List.getElem?_map, List.getElem?_map, tasks_run]
  show ((courses.map taskOf)[index]?.map _).map Task.ending = _
  rw [List.getElem?_map]
  cases courses[index]? <;> rfl

@[simp]
theorem length_tasks_run :
    ((Crew.start courses).run schedule).tasks.length = courses.length := by
  have h := congrArg List.length (endings_run courses schedule)
  rwa [List.length_map, List.length_map] at h

theorem panicked_run :
    ((Crew.start courses).run schedule).tasks.countP (·.ending = .panicked)
      = courses.countP (·.ending = .panicked) := by
  have h := congrArg (List.countP (· = .panicked)) (endings_run courses schedule)
  rwa [List.countP_map, List.countP_map] at h

variable {courses schedule}

theorem exists_course_of_task {task : Task}
    (h : task ∈ ((Crew.start courses).run schedule).tasks) :
    ∃ course ∈ courses, course.ending = task.ending := by
  rw [← List.mem_map, ← endings_run courses schedule]
  exact List.mem_map_of_mem h

theorem exists_task_of_course {course : Course ReadyNode} (h : course ∈ courses) :
    ∃ task ∈ ((Crew.start courses).run schedule).tasks, task.ending = course.ending := by
  rw [← List.mem_map, endings_run courses schedule]
  exact List.mem_map_of_mem h

/-- When all tasks have ended, and the course of every task gets done with a certain node, what has
been delivered is these nodes. -/
theorem delivered_perm {ι : Type} {items : List ι} {alone : ι → Course ReadyNode}
    {ready : ι → ReadyNode} (hready : ∀ item ∈ items, (alone item).ending = .done (ready item))
    (hended : ∀ task ∈ ((Crew.start (items.map alone)).run schedule).tasks, task.ended = true)
    {nodes : List ReadyNode}
    (hdelivered : ((Crew.start (items.map alone)).run schedule).delivered = nodes.map .ok) :
    nodes.Perm (items.map ready) := by
  refine ((Kept.start (items.map alone)).run schedule).perm_of_done hended hdelivered ?_
  rw [endings_run, List.map_map, List.map_map]
  exact List.map_congr_left hready

/-- Under every schedule, a collector that has returned has returned nodes exactly if the course of
every task gets done. -/
theorem ok_iff_courses_done {result : Except Failure (List ReadyNode)}
    (hresult : ((Crew.start courses).run schedule).result = some result) :
    (∃ nodes, result = .ok nodes) ↔ ∀ course ∈ courses, ∃ node, course.ending = .done node := by
  rw [((Kept.start courses).run schedule).ok_iff_done hresult]
  constructor
  · intro hdone course hcourse
    obtain ⟨task, htask, hending⟩ :=
      @exists_task_of_course courses schedule course hcourse
    rw [← hending]
    exact hdone task htask
  · intro hdone task htask
    obtain ⟨course, hcourse, hending⟩ := exists_course_of_task htask
    rw [← hending]
    exact hdone course hcourse

/-- Under every schedule, an error that the collector has returned is the failure of a task, or it
says that the run was aborted. -/
theorem failed_or_aborted {failure : Failure}
    (hresult : ((Crew.start courses).run schedule).result = some (.error failure)) :
    (∃ course ∈ courses, course.ending = .failed failure)
      ∨ ∃ expected received, failure = .aborted expected received := by
  have hkept := (Kept.start courses).run schedule
  rcases hkept.delivered_of_error hresult with ⟨later, hdelivered⟩ | ⟨haborted, -⟩
  · left
    have hmem : .error failure ∈ ((Crew.start courses).run schedule).delivered := by
      rw [hdelivered]
      exact List.mem_append_right _ List.mem_cons_self
    obtain ⟨task, htask, -, hfailed⟩ := hkept.exists_of_error_mem hmem
    obtain ⟨course, hcourse, hending⟩ := exists_course_of_task htask
    exact ⟨course, hcourse, hending.trans hfailed⟩
  · exact .inr ⟨_, _, haborted⟩

end

end Crew
end ClusterProvision
