import ClusterProvision.FanIn

/-!
# `ClusterProvision.Proofs.FanIn`: the collector's books

`FanIn` keeps what the collector has received and what still waits in the channel. The
outcomes that the tasks have delivered are written down beside it, in order, and
`FanIn.Books` says how the two agree:

* while the collector waits, the delivered outcomes are the received results followed by
  the queue, so nothing is lost and nothing comes twice;
* a list of results that it has returned is all that was delivered, one from every task;
* a failure that it has returned is the first one delivered, or the run is aborted: all
  tasks have ended, none of them with a failure, and not all of them with a result.

`Books.finish` and `Books.collect` are the two steps, the end of a task and a step of the
collector. `Books.send` is why no outcome finds the channel full. `collect_of_allEnded` is
why the collector of a run without running tasks returns, and `caughtUp_collect_collect`
why two of its steps are enough when a task has just ended.
-/

set_option autoImplicit false

namespace ClusterProvision.FanIn

variable {α : Type}

/-- `failure` was delivered, and before it only the results that the collector has
received. -/
def FirstFailure (state : FanIn α) (delivered : List (Except Failure α)) (failure : Failure) :
    Prop :=
  ∃ later, delivered = state.received.map .ok ++ .error failure :: later

/-- All tasks have ended, none of them with a failure, and some without a result. -/
structure Aborted (state : FanIn α) (delivered : List (Except Failure α)) : Prop where
  allEnded : state.running = 0
  missing : state.received.length < state.expected
  results : delivered = state.received.map .ok

/-- What the collector has returned, or what it holds while it waits, is right about the
outcomes delivered so far. -/
def Accounts (state : FanIn α) (delivered : List (Except Failure α)) : Prop :=
  match state.result with
  | none =>
    state.channel.isOpen = true ∧ state.received.length < state.expected
      ∧ delivered = state.received.map .ok ++ state.channel.queue
  | some (.ok results) => results.length = state.expected ∧ delivered = results.map .ok
  | some (.error failure) =>
    state.FirstFailure delivered failure
      ∨ failure = .aborted state.expected state.received.length ∧ state.Aborted delivered

/-- The collector's state agrees with the outcomes delivered so far, oldest first. -/
structure Books (state : FanIn α) (delivered : List (Except Failure α)) : Prop where
  capacity : state.channel.capacity = state.expected
  bound : delivered.length + state.running ≤ state.expected
  accounts : state.Accounts delivered

/-- A collector that has returned stays where it is. -/
theorem collect_of_isSome {state : FanIn α} (h : state.result.isSome = true) :
    state.collect = state := by
  rw [collect, if_pos h]

/-- A step of a collector that waits: it receives a failure, the last result or another
result; or there is nothing to receive, and it sees that nothing will come, or waits on. -/
theorem collect_cases {state : FanIn α} (hwaits : state.result = none) :
    (∃ failure rest, state.channel.queue = .error failure :: rest
      ∧ state.collect = state.giveBack (.error failure)) ∨
    (∃ a rest, state.channel.queue = .ok a :: rest
      ∧ (state.received ++ [a]).length = state.expected
      ∧ state.collect =
        { state with
          received := state.received ++ [a]
          channel := { state.channel with queue := rest }.close
          result := some (.ok (state.received ++ [a])) }) ∨
    (∃ a rest, state.channel.queue = .ok a :: rest
      ∧ (state.received ++ [a]).length ≠ state.expected
      ∧ state.collect =
        { state with
          received := state.received ++ [a]
          channel := { state.channel with queue := rest } }) ∨
    (state.channel.queue = [] ∧ state.running = 0
      ∧ state.collect =
        state.giveBack (.error (.aborted state.expected state.received.length))) ∨
    (state.channel.queue = [] ∧ state.running ≠ 0 ∧ state.collect = state) := by
  have hstep : ¬state.result.isSome = true := by simp [hwaits]
  cases hqueue : state.channel.queue with
  | nil =>
    by_cases hrunning : state.running = 0
    · exact .inr (.inr (.inr (.inl ⟨rfl, hrunning, by simp [collect, hstep, hqueue, hrunning]⟩)))
    · exact .inr (.inr (.inr (.inr ⟨rfl, hrunning, by simp [collect, hstep, hqueue, hrunning]⟩)))
  | cons outcome rest =>
    cases outcome with
    | error failure => exact .inl ⟨failure, rest, rfl, by simp [collect, hstep, hqueue]⟩
    | ok a =>
      by_cases hlast : (state.received ++ [a]).length = state.expected
      · refine .inr (.inl ⟨a, rest, rfl, hlast, ?_⟩)
        simp only [collect, hstep, hqueue]
        rw [if_pos hlast]
        rfl
      · refine .inr (.inr (.inl ⟨a, rest, rfl, hlast, ?_⟩))
        simp only [collect, hstep, hqueue]
        rw [if_neg hlast]
        rfl

@[simp]
theorem expected_collect (state : FanIn α) : state.collect.expected = state.expected := by
  cases hresult : state.result with
  | some result => rw [collect_of_isSome (by rw [hresult]; rfl)]
  | none =>
    rcases collect_cases hresult with ⟨_, _, -, he⟩ | ⟨_, _, -, -, he⟩ | ⟨_, _, -, -, he⟩
      | ⟨-, -, he⟩ | ⟨-, -, he⟩ <;> rw [he] <;> rfl

@[simp]
theorem running_collect (state : FanIn α) : state.collect.running = state.running := by
  cases hresult : state.result with
  | some result => rw [collect_of_isSome (by rw [hresult]; rfl)]
  | none =>
    rcases collect_cases hresult with ⟨_, _, -, he⟩ | ⟨_, _, -, -, he⟩ | ⟨_, _, -, -, he⟩
      | ⟨-, -, he⟩ | ⟨-, -, he⟩ <;> rw [he] <;> rfl

namespace Books

variable {state : FanIn α} {delivered : List (Except Failure α)}

/-- Nothing is delivered at the start. A run without tasks has its result there. -/
theorem start (tasks : Nat) : Books (FanIn.start tasks : FanIn α) [] where
  capacity := rfl
  bound := by simp [FanIn.start]
  accounts := by
    cases tasks with
    | zero => exact ⟨rfl, rfl⟩
    | succ n => exact ⟨rfl, Nat.succ_pos n, rfl⟩

/-- While the collector waits and a task is running, what the task delivers has a place in
the channel. -/
theorem send (h : Books state delivered) (hwaits : state.result = none)
    (hrunning : 0 < state.running) (outcome : Except Failure α) :
    state.channel.send outcome =
      { state.channel with queue := state.channel.queue ++ [outcome] } := by
  have haccounts := h.accounts
  rw [Accounts, hwaits] at haccounts
  obtain ⟨hopen, -, hdelivered⟩ := haccounts
  -- What is in the queue comes from tasks that have ended, and one task is still running.
  have hroom : state.channel.queue.length < state.channel.capacity := by
    have hlength := congrArg List.length hdelivered
    rw [List.length_append] at hlength
    have hbound := h.bound
    rw [h.capacity]
    omega
  exact Channel.send_of_room hopen hroom outcome

/-- While the collector waits, the end of a running task puts its outcome into the queue. -/
theorem channel_finish (h : Books state delivered) (hwaits : state.result = none)
    (hrunning : 0 < state.running) (ending : Ending α) :
    (state.finish ending).channel =
      { state.channel with queue := state.channel.queue ++ (message? ending).toList } := by
  unfold FanIn.finish
  cases message? ending with
  | none => simp
  | some outcome => exact h.send hwaits hrunning outcome

/-- The end of a running task adds its outcome to what is delivered. -/
theorem finish (h : Books state delivered) (hrunning : 0 < state.running)
    (ending : Ending α) :
    Books (state.finish ending) (delivered ++ (message? ending).toList) where
  capacity := by
    have hcapacity : (state.finish ending).channel.capacity = state.channel.capacity := by
      unfold FanIn.finish
      cases message? ending with
      | none => rfl
      | some outcome => exact Channel.capacity_send state.channel outcome
    exact hcapacity.trans h.capacity
  bound := by
    have hbound := h.bound
    have hmessage : (message? ending).toList.length ≤ 1 := by cases ending <;> simp [message?]
    show (delivered ++ (message? ending).toList).length + (state.running - 1) ≤ state.expected
    rw [List.length_append]
    omega
  accounts := by
    have haccounts := h.accounts
    unfold Accounts at haccounts ⊢
    show match state.result with | none => _ | some (.ok results) => _ | some (.error failure) => _
    cases hresult : state.result with
    | none =>
      rw [hresult] at haccounts
      obtain ⟨hopen, hreceived, hdelivered⟩ := haccounts
      refine ⟨?_, hreceived, ?_⟩
      · rw [h.channel_finish hresult hrunning ending]
        exact hopen
      · rw [h.channel_finish hresult hrunning ending, hdelivered, List.append_assoc]
        rfl
    | some result =>
      rw [hresult] at haccounts
      have hbound := h.bound
      cases result with
      | ok results =>
        -- All outcomes are there, so no task is running.
        obtain ⟨hlength, hdelivered⟩ := haccounts
        rw [hdelivered, List.length_map] at hbound
        omega
      | error failure =>
        -- The first failure stays the first. After an abort there is no task to end.
        rcases haccounts with ⟨later, hdelivered⟩ | ⟨-, haborted⟩
        · refine .inl ⟨later ++ (message? ending).toList, ?_⟩
          rw [hdelivered, List.append_assoc]
          rfl
        · have := haborted.allEnded
          omega

/-- A step of the collector leaves the delivered outcomes as they are. -/
theorem collect (h : Books state delivered) : Books state.collect delivered := by
  cases hresult : state.result with
  | some result =>
    rw [collect_of_isSome (by rw [hresult]; rfl)]
    exact h
  | none =>
  have haccounts := h.accounts
  rw [Accounts, hresult] at haccounts
  obtain ⟨hopen, hreceived, hdelivered⟩ := haccounts
  rcases collect_cases hresult with ⟨failure, rest, hqueue, he⟩ | ⟨a, rest, hqueue, hlast, he⟩
    | ⟨a, rest, hqueue, hmore, he⟩ | ⟨hqueue, hrunning, he⟩ | ⟨-, -, he⟩
  · rw [he]
    exact ⟨h.capacity, h.bound, .inl ⟨rest, by rw [hdelivered, hqueue]; rfl⟩⟩
  · -- Behind the last result the queue is empty, for no task delivers twice.
    have hrest : rest = [] := by
      have hbound := h.bound
      rw [hdelivered, hqueue] at hbound
      simp only [List.length_append, List.length_map, List.length_cons, List.length_nil]
        at hbound hlast
      exact List.length_eq_zero_iff.mp (by omega)
    rw [he]
    refine ⟨h.capacity, h.bound, hlast, ?_⟩
    rw [hdelivered, hqueue, hrest, List.map_append]
    rfl
  · rw [he]
    refine ⟨h.capacity, h.bound, ?_⟩
    show Accounts _ _
    unfold Accounts
    rw [hresult]
    refine ⟨hopen, ?_, ?_⟩
    · rw [List.length_append, List.length_singleton] at hmore ⊢
      show state.received.length + 1 < state.expected
      omega
    · rw [hdelivered, hqueue, List.map_append, List.append_assoc]
      rfl
  · -- Nothing is in the queue, so what has been received is all that was delivered.
    rw [he]
    refine ⟨h.capacity, h.bound, .inr ⟨rfl, hrunning, hreceived, ?_⟩⟩
    rw [hdelivered, hqueue, List.append_nil]
    rfl
  · rw [he]
    exact h

end Books

/-- A task that ends puts at most one outcome into the queue. -/
theorem length_queue_finish_le (state : FanIn α) (ending : Ending α) :
    (state.finish ending).channel.queue.length ≤ state.channel.queue.length + 1 := by
  have hsend : ∀ outcome : Except Failure α,
      (state.channel.send outcome).queue.length ≤ state.channel.queue.length + 1 := by
    intro outcome
    unfold Channel.send
    split <;> simp
  unfold finish
  cases message? ending with
  | none => exact Nat.le_succ _
  | some outcome => exact hsend outcome

/-- A task that does not panic has an outcome for the collector. -/
theorem length_filterMap_message? [DecidableEq α] (endings : List (Ending α)) :
    (endings.filterMap message?).length + endings.countP (· = .panicked) = endings.length := by
  induction endings with
  | nil => rfl
  | cons ending endings ih =>
    rw [List.filterMap_cons, List.countP_cons, List.length_cons]
    cases ending <;> simp [message?] <;> omega

/-! ### The collector does not stop short -/

/-- When no task is running, a step of a collector that waits brings it to its return, or
takes one outcome from the queue. -/
theorem collect_of_allEnded {state : FanIn α} (hwaits : state.result = none)
    (hended : state.running = 0) :
    state.collect.result.isSome = true
      ∨ state.collect.running = 0
        ∧ state.collect.channel.queue.length + 1 = state.channel.queue.length := by
  rcases collect_cases hwaits with ⟨failure, rest, -, he⟩ | ⟨a, rest, -, -, he⟩
    | ⟨a, rest, hqueue, -, he⟩ | ⟨-, -, he⟩ | ⟨-, hrunning, -⟩
  · exact .inl (by rw [he]; rfl)
  · exact .inl (by rw [he]; rfl)
  · refine .inr ⟨by rw [he]; exact hended, ?_⟩
    rw [he, hqueue]
    rfl
  · exact .inl (by rw [he]; rfl)
  · exact absurd hended hrunning

/-- The collector has done all that it can do for now: it has returned, or it waits for a
running task. -/
def CaughtUp (state : FanIn α) : Prop :=
  state.result = none → state.channel.queue = [] ∧ state.running ≠ 0

/-- At the start there is nothing to receive, and a task is running unless there is none. -/
theorem caughtUp_start (tasks : Nat) : (start tasks : FanIn α).CaughtUp := by
  intro hwaits
  refine ⟨rfl, ?_⟩
  rintro (rfl : tasks = 0)
  exact nomatch hwaits

theorem caughtUp_of_isSome {state : FanIn α} (h : state.result.isSome = true) :
    state.CaughtUp := by
  intro hwaits
  rw [hwaits] at h
  exact nomatch h

theorem caughtUp_collect_of_isSome {state : FanIn α} (h : state.result.isSome = true) :
    state.collect.CaughtUp := by
  rw [collect_of_isSome h]
  exact caughtUp_of_isSome h

/-- With an empty queue one step is enough to catch up. -/
theorem caughtUp_collect_of_empty {state : FanIn α} (hqueue : state.channel.queue = []) :
    state.collect.CaughtUp := by
  cases hresult : state.result with
  | some result =>
    exact caughtUp_collect_of_isSome (by rw [hresult]; rfl)
  | none =>
    by_cases hrunning : state.running = 0
    · rcases collect_of_allEnded hresult hrunning with h | ⟨-, h⟩
      · exact caughtUp_of_isSome h
      · rw [hqueue] at h
        exact nomatch h
    · have he : state.collect = state := by simp [collect, hresult, hqueue, hrunning]
      rw [he]
      exact fun _ => ⟨hqueue, hrunning⟩

/-- Two steps are enough to catch up with one outcome: one receives it, and one sees that
no other will come. -/
theorem caughtUp_collect_collect {state : FanIn α}
    (hqueue : state.result = none → state.channel.queue.length ≤ 1) :
    state.collect.collect.CaughtUp := by
  cases hresult : state.result with
  | some result =>
    have h : state.result.isSome = true := by rw [hresult]; rfl
    rw [collect_of_isSome h, collect_of_isSome h]
    exact caughtUp_of_isSome h
  | none =>
    have hlength := hqueue hresult
    rcases collect_cases hresult with ⟨failure, rest, -, he⟩ | ⟨a, rest, -, -, he⟩
      | ⟨a, rest, hcons, -, he⟩ | ⟨-, -, he⟩ | ⟨hnil, hrunning, he⟩
    · exact caughtUp_collect_of_isSome (by rw [he]; rfl)
    · exact caughtUp_collect_of_isSome (by rw [he]; rfl)
    · -- The queue held one result, so the first step has emptied it.
      rw [hcons, List.length_cons] at hlength
      have hrest : rest = [] := List.length_eq_zero_iff.mp (by omega)
      exact caughtUp_collect_of_empty (by rw [he, hrest])
    · exact caughtUp_collect_of_isSome (by rw [he]; rfl)
    · rw [he, he]
      exact fun _ => ⟨hnil, hrunning⟩

end ClusterProvision.FanIn
