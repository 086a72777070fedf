import ClusterProvision.Proofs.PhaseHistory

/-!
# `ClusterProvision.Proofs.Overflow`: what a full channel loses

The steps of a session emit events, and those that find the channel full or closed are lost. From
one drain to the next, the channel holds the first of the events emitted in between, as many as it
has room for (`StatusSession.holds_after`). So this is what the next drain receives. Once the
listener has stopped, nothing is received any more (`StatusSession.not_received_of_closed`).

The phases do not notice any of this. What is answered about them and which events are emitted
depends on the steps that have to do with phases and events, and on nothing else: not on the
channel, on what it holds or on when it is drained or closed (`StatusSession.spoken_eq`).
`StatusSession.losesOverflow` puts this together for every session.
-/

set_option autoImplicit false

namespace ClusterProvision

/-- Whether a step has to do with phases or events. The other steps are those of the listener. -/
def SessionStep.speaks : SessionStep → Bool
  | phase _ => true
  | report _ => true
  | drain => false
  | close => false

/-- The answer about a phase. -/
def SessionAnswer.phase? : SessionAnswer → Option PhaseAnswer
  | phase answer => some answer
  | _ => none

namespace StatusSession

/-- The events that a step emits, whatever becomes of them. -/
def emitted (session : StatusSession) : SessionStep → List StatusEvent
  | .phase step => (session.board.step step).2.1
  | .report event => [event]
  | .drain => []
  | .close => []

/-- The session after steps. -/
def after (session : StatusSession) : List SessionStep → StatusSession
  | [] => session
  | first :: rest => (session.step first).2.after rest

/-- The events that steps emit, one step after another. -/
def emittedBy (session : StatusSession) : List SessionStep → List StatusEvent
  | [] => []
  | first :: rest => session.emitted first ++ (session.step first).2.emittedBy rest

/-- What steps answer about phases. -/
def phaseAnswers (session : StatusSession) (steps : List SessionStep) : List PhaseAnswer :=
  (session.run steps).filterMap SessionAnswer.phase?

theorem run_cons (session : StatusSession) (first : SessionStep) (rest : List SessionStep) :
    session.run (first :: rest)
      = (session.step first).1 :: (session.step first).2.run rest := rfl

theorem after_append (session : StatusSession) (steps more : List SessionStep) :
    session.after (steps ++ more) = (session.after steps).after more := by
  induction steps generalizing session with
  | nil => rfl
  | cons first rest ih => exact ih _

theorem run_append (session : StatusSession) (steps more : List SessionStep) :
    session.run (steps ++ more) = session.run steps ++ (session.after steps).run more := by
  induction steps generalizing session with
  | nil => rfl
  | cons first rest ih => rw [List.cons_append, run_cons, ih, run_cons, after, List.cons_append]

theorem length_run (session : StatusSession) (steps : List SessionStep) :
    (session.run steps).length = steps.length := by
  induction steps generalizing session with
  | nil => rfl
  | cons first rest ih => rw [run_cons, List.length_cons, ih, List.length_cons]

/-- The answer of a step stands at the place of the step. -/
theorem getElem?_run (session : StatusSession) (before : List SessionStep) (step : SessionStep)
    (later : List SessionStep) :
    (session.run (before ++ step :: later))[before.length]?
      = some ((session.after before).step step).1 := by
  rw [run_append, run_cons, ← session.length_run before]
  simp

end StatusSession

/-! ### What is received -/

/-- Cutting a list off before more comes behind it makes no difference to what is left of both. -/
theorem take_append_take {α : Type} (n : Nat) (xs ys : List α) :
    (xs.take n ++ ys).take n = (xs ++ ys).take n := by
  rw [List.take_append, List.take_append, List.take_take, Nat.min_self]
  -- Either there is no room for anything of `ys`, or nothing of `xs` is cut off.
  rcases Nat.le_total n xs.length with hcut | hwhole
  · rw [List.length_take_of_le hcut, Nat.sub_self, Nat.sub_eq_zero_of_le hcut]
  · rw [List.take_of_length_le hwhole]

namespace Sink

/-- A sink passes events on into an open channel of some capacity. Of some events, the channel holds
the first, as many as it has room for. -/
structure Holds (sink : Sink) (capacity : Nat) (events : List StatusEvent) : Prop where
  passesOn : sink.passesOn = true
  isOpen : sink.channel.isOpen = true
  capacity_eq : sink.channel.capacity = capacity
  queue_eq : sink.channel.queue = events.take capacity

theorem holds_new (capacity : Nat) : (StatusSession.new capacity true).sink.Holds capacity [] where
  passesOn := rfl
  isOpen := rfl
  capacity_eq := rfl
  queue_eq := List.take_nil.symm

section
variable {sink : Sink} {capacity : Nat} {events : List StatusEvent}

theorem Holds.report (h : sink.Holds capacity events) (more : List StatusEvent) :
    (sink.report more).Holds capacity (events ++ more) := by
  have hbound : sink.channel.queue.length ≤ sink.channel.capacity := by
    rw [h.queue_eq, h.capacity_eq]
    exact List.length_take_le _ _
  rw [Sink.report, if_pos h.passesOn, Channel.sendAll_of_open h.isOpen hbound]
  refine ⟨h.passesOn, h.isOpen, h.capacity_eq, ?_⟩
  -- What has been lost already does not free any room.
  show (sink.channel.queue ++ more).take sink.channel.capacity = _
  rw [h.queue_eq, h.capacity_eq, take_append_take]

end

/-- Nobody listens any more to the channel of a sink. -/
structure Closed (sink : Sink) : Prop where
  isOpen : sink.channel.isOpen = false
  queue_eq : sink.channel.queue = []

theorem Closed.report {sink : Sink} (h : sink.Closed) (more : List StatusEvent) :
    sink.report more = sink := by
  rw [Sink.report, Channel.sendAll_of_closed h.isOpen]
  split <;> rfl

theorem length_queue_le {sink : Sink} {capacity : Nat}
    (h : (∃ events, sink.Holds capacity events) ∨ sink.Closed) :
    sink.channel.queue.length ≤ capacity := by
  rcases h with ⟨events, h⟩ | h
  · rw [h.queue_eq]
    exact List.length_take_le _ _
  · rw [h.queue_eq]
    exact Nat.zero_le _

end Sink

namespace StatusSession

section
variable {session : StatusSession} {capacity : Nat} {events : List StatusEvent}

/-- What a step emits comes behind the events that there were. -/
theorem holds_step (h : session.sink.Holds capacity events) {step : SessionStep}
    (hdrain : step ≠ .drain) (hclose : step ≠ .close) :
    (session.step step).2.sink.Holds capacity (events ++ session.emitted step) := by
  cases step with
  | phase step => exact h.report _
  | report event => exact h.report _
  | drain => exact absurd rfl hdrain
  | close => exact absurd rfl hclose

/-- A drain receives what the channel holds, and the channel is empty after it. -/
theorem step_drain (h : session.sink.Holds capacity events) :
    (session.step .drain).1 = .received (events.take capacity)
      ∧ (session.step .drain).2.sink.Holds capacity [] := by
  have hchannel : session.sink.channel.drain
      = (some (events.take capacity), { session.sink.channel with queue := [] }) := by
    rw [Channel.drain, if_pos h.isOpen, h.queue_eq]
  simp only [step, hchannel]
  exact ⟨trivial, h.passesOn, h.isOpen, h.capacity_eq, List.take_nil.symm⟩

theorem holds_after (h : session.sink.Holds capacity events) {steps : List SessionStep}
    (hdrain : .drain ∉ steps) (hclose : .close ∉ steps) :
    (session.after steps).sink.Holds capacity (events ++ session.emittedBy steps) := by
  induction steps generalizing session events with
  | nil =>
    rw [emittedBy, List.append_nil]
    exact h
  | cons first rest ih =>
    simp only [List.mem_cons, not_or] at hdrain hclose
    have hnext := holds_step h (Ne.symm hdrain.1) (Ne.symm hclose.1)
    have hrest := ih hnext hdrain.2 hclose.2
    rwa [List.append_assoc] at hrest

/-- Only closing the channel ends that it holds the first of some events. -/
theorem step_cases (h : session.sink.Holds capacity events) (step : SessionStep) :
    (∃ others, (session.step step).2.sink.Holds capacity others)
      ∨ step = .close ∧ (session.step step).2.sink.Closed := by
  by_cases hdrain : step = .drain
  · subst hdrain
    exact .inl ⟨[], (step_drain h).2⟩
  by_cases hclose : step = .close
  · subst hclose
    exact .inr ⟨rfl, ⟨rfl, rfl⟩⟩
  · exact .inl ⟨_, holds_step h hdrain hclose⟩

theorem exists_holds_after (h : session.sink.Holds capacity events) {steps : List SessionStep}
    (hclose : .close ∉ steps) : ∃ others, (session.after steps).sink.Holds capacity others := by
  induction steps generalizing session events with
  | nil => exact ⟨events, h⟩
  | cons first rest ih =>
    simp only [List.mem_cons, not_or] at hclose
    rcases step_cases h first with ⟨others, hothers⟩ | ⟨rfl, -⟩
    · exact ih hothers hclose.2
    · exact absurd rfl hclose.1

end

/-- Once nobody listens, this stays so, and a step receives nothing. -/
theorem closed_step {session : StatusSession} (h : session.sink.Closed) (step : SessionStep) :
    (session.step step).2.sink.Closed ∧ ∀ events, (session.step step).1 ≠ .received events := by
  cases step with
  | phase step => simp [StatusSession.step, h.report, h]
  | report event => simp [StatusSession.step, h.report, h]
  | drain =>
    have hchannel : session.sink.channel.drain = (none, session.sink.channel) := by
      simp [Channel.drain, h.isOpen]
    simp [StatusSession.step, hchannel, h]
  | close =>
    -- What was still in the channel is dropped with it.
    refine ⟨⟨rfl, rfl⟩, ?_⟩
    simp [StatusSession.step]

theorem not_received_of_closed {session : StatusSession} (h : session.sink.Closed)
    (steps : List SessionStep) (events : List StatusEvent) :
    .received events ∉ session.run steps := by
  induction steps generalizing session with
  | nil => exact List.not_mem_nil
  | cons first rest ih =>
    obtain ⟨hnext, hanswer⟩ := closed_step h first
    rw [run_cons]
    exact List.not_mem_cons_of_ne_of_not_mem (hanswer events).symm (ih hnext)

theorem holds_or_closed_after {session : StatusSession} {capacity : Nat}
    (h : (∃ events, session.sink.Holds capacity events) ∨ session.sink.Closed)
    (steps : List SessionStep) :
    (∃ events, (session.after steps).sink.Holds capacity events)
      ∨ (session.after steps).sink.Closed := by
  induction steps generalizing session with
  | nil => exact h
  | cons first rest ih =>
    refine ih ?_
    rcases h with ⟨events, h⟩ | h
    · exact (step_cases h first).imp_right And.right
    · exact .inr (closed_step h first).1

/-! ### What is not affected -/

/-- Steps of the listener leave the phases as they are. -/
theorem step_of_not_speaks (session : StatusSession) {step : SessionStep}
    (h : step.speaks = false) :
    (session.step step).2.board = session.board ∧ session.emitted step = []
      ∧ (session.step step).1.phase? = none := by
  cases step with
  | phase step => simp [SessionStep.speaks] at h
  | report event => simp [SessionStep.speaks] at h
  | drain =>
    refine ⟨rfl, rfl, ?_⟩
    simp only [StatusSession.step]
    split <;> rfl
  | close => exact ⟨rfl, rfl, rfl⟩

/-- Sessions with the same phases take a step in the same way, whatever their sinks are. -/
theorem step_of_speaks {session other : StatusSession} (h : session.board = other.board)
    {step : SessionStep} (hspeaks : step.speaks = true) :
    (session.step step).2.board = (other.step step).2.board
      ∧ session.emitted step = other.emitted step
      ∧ (session.step step).1.phase? = (other.step step).1.phase? := by
  cases step with
  | phase step => simp [StatusSession.step, emitted, h]
  | report event => simp [StatusSession.step, emitted, h]
  | drain => simp [SessionStep.speaks] at hspeaks
  | close => simp [SessionStep.speaks] at hspeaks

/-- The steps of the listener, and the sink, have no part in what phases answer and emit. -/
theorem spoken_eq {session other : StatusSession} (h : session.board = other.board)
    (steps : List SessionStep) :
    session.phaseAnswers steps = other.phaseAnswers (steps.filter SessionStep.speaks)
      ∧ session.emittedBy steps = other.emittedBy (steps.filter SessionStep.speaks) := by
  induction steps generalizing session other with
  | nil => exact ⟨rfl, rfl⟩
  | cons first rest ih =>
    cases hspeaks : first.speaks with
    | true =>
      -- Both sessions take the step, and their phases stay the same.
      obtain ⟨hboard, hemitted, hanswer⟩ := step_of_speaks h hspeaks
      obtain ⟨hanswers, hothers⟩ := ih hboard
      rw [List.filter_cons_of_pos hspeaks]
      refine ⟨?_, ?_⟩
      · unfold phaseAnswers at hanswers ⊢
        rw [run_cons, run_cons, List.filterMap_cons, List.filterMap_cons, hanswer, hanswers]
      · rw [emittedBy, emittedBy, hemitted, hothers]
    | false =>
      -- Only one of the sessions takes the step, which leaves its phases alone.
      obtain ⟨hboard, hemitted, hanswer⟩ := session.step_of_not_speaks hspeaks
      obtain ⟨hanswers, hothers⟩ := ih (hboard.trans h)
      rw [List.filter_cons_of_neg (by simp [hspeaks])]
      refine ⟨?_, ?_⟩
      · rw [← hanswers, phaseAnswers, run_cons, List.filterMap_cons_none hanswer]
        rfl
      · rw [emittedBy, hemitted, hothers, List.nil_append]

/-- What a channel of some capacity does to the events that steps emit. -/
structure LosesOverflow (capacity : Nat) (steps : List SessionStep) : Prop where
  /-- As long as there is a listener, a drain receives the first of the events that were emitted
  since the drain before it, or since the beginning: as many as the channel holds, in order. -/
  received : ∀ before between later, steps = before ++ between ++ .drain :: later →
    (before = [] ∨ before.getLast? = some .drain) → .drain ∉ between →
    .close ∉ before ++ between →
    ((new capacity true).run steps)[(before ++ between).length]?
      = some (.received ((((new capacity true).after before).emittedBy between).take capacity))
  /-- At no time are there more events in the channel than it holds, also if more are sent. -/
  bounded : ∀ earlier, earlier <+: steps → ∀ sent,
    (((new capacity true).after earlier).sink.report sent).channel.queue.length ≤ capacity
  /-- After the channel has been closed, nothing is received. -/
  silent : ∀ before later, steps = before ++ .close :: later → ∀ events,
    .received events ∉ ((new capacity true).run steps).drop before.length
  /-- With any other sink, and with the listener doing something else, the same is answered about
  phases and the same events are emitted. -/
  unaffected : ∀ (sink : Sink) (others : List SessionStep),
    others.filter SessionStep.speaks = steps.filter SessionStep.speaks →
      ({ sink } : StatusSession).phaseAnswers others = (new capacity true).phaseAnswers steps
        ∧ ({ sink } : StatusSession).emittedBy others = (new capacity true).emittedBy steps

/-- A bounded channel loses the events for which it has no room, and nothing else. -/
theorem losesOverflow (capacity : Nat) (steps : List SessionStep) :
    LosesOverflow capacity steps where
  received := by
    rintro before between later rfl hbefore hdrain hclose
    rw [List.mem_append, not_or] at hclose
    -- After a drain, and at the beginning, the channel is empty.
    have hempty : ((new capacity true).after before).sink.Holds capacity [] := by
      rcases hbefore with rfl | hlast
      · exact Sink.holds_new capacity
      · obtain ⟨first, rfl⟩ := List.getLast?_eq_some_iff.mp hlast
        have hfirst : .close ∉ first := fun h => hclose.1 (List.mem_append_left _ h)
        obtain ⟨others, hothers⟩ := exists_holds_after (Sink.holds_new capacity) hfirst
        rw [after_append]
        exact (step_drain hothers).2
    have hholds := holds_after hempty hdrain hclose.2
    rw [List.nil_append, ← after_append] at hholds
    rw [getElem?_run, (step_drain hholds).1]
  bounded := by
    intro earlier _ sent
    refine Sink.length_queue_le ?_
    rcases holds_or_closed_after (.inl ⟨[], Sink.holds_new capacity⟩) earlier with ⟨events, h⟩ | h
    · exact .inl ⟨_, h.report sent⟩
    · rw [h.report sent]
      exact .inr h
  silent := by
    rintro before later rfl events
    have hclosed : (((new capacity true).after before).step .close).2.sink.Closed := ⟨rfl, rfl⟩
    rw [run_append, List.drop_left' (length_run _ _), run_cons, List.mem_cons, not_or]
    exact ⟨by simp [step], not_received_of_closed hclosed later events⟩
  unaffected := by
    intro sink others hothers
    have hboard : ({ sink } : StatusSession).board = (new capacity true).board := rfl
    obtain ⟨hanswers, hemitted⟩ := spoken_eq hboard others
    obtain ⟨hown, hownEmitted⟩ := spoken_eq (rfl : (new capacity true).board = _) steps
    rw [hanswers, hemitted, hothers]
    exact ⟨hown.symm, hownEmitted.symm⟩

/-- The end of the phase finds the channel full. -/
example : (new 1 true).run [.phase (.start 0 "Nodes"), .phase (.finish 0 true), .drain, .drain]
    = [.phase (.started "Nodes"), .phase .ended, .received [.start "Nodes"], .received []] := by
  decide

end StatusSession
end ClusterProvision
