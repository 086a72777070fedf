import ClusterProvision.Proofs.Board
import ClusterProvision.Proofs.Sorting
import ClusterProvision.Status.Session
import Mathlib.Data.List.Induction

/-!
# `ClusterProvision.Proofs.PhaseHistory`: every phase ends once

What is under a number on a board changes, and two phases may have one label. Here a phase is known
by the place of the step that has opened it. `Board.held` is the phase that is open under a number,
and `Board.calls` are the events that steps report, each with the phase that it is about
(`Board.run_eq`).

The events of one phase are its start and, once another step has had its number, its end
(`Board.eventsOf_calls`). This goes by induction on the steps behind the one that has opened it: the
phase is held for as long as no step has had its number (`Board.held_eq_some_iff`), and each step
ends what it finds held. In any part of the calls that comes first, a phase has at most one event
without a counterpart, its start; summed over all phases, this is `Board.balance_calls`.

Nothing here depends on where the events go. A channel with room for them hands them over as they
are (`StatusSession.run_phases`).
-/

set_option autoImplicit false

namespace ClusterProvision

/-! ### Phases by the steps that open them -/

namespace PhaseStep

/-- What there is to report about the phase that a step opens, if it opens one, with the steps that
come behind it. The first of these under the same number ends the phase. -/
def history (step : PhaseStep) (later : List PhaseStep) : List StatusEvent :=
  match step.label? with
  | none => []
  | some label =>
    let closing? := later.find? (·.number = step.number)
    .start label :: (closing?.map fun closing => .finish label closing.flag).toList

/-- One more step is the end of the phase if it is the first under the same number. -/
theorem history_append_singleton (step : PhaseStep) (later : List PhaseStep) (last : PhaseStep) :
    step.history (later ++ [last]) = step.history later
      ++ if last.number = step.number ∧ later.find? (·.number = step.number) = none then
          (step.label?.map fun label => .finish label last.flag).toList
        else [] := by
  unfold history
  cases step.label? with
  | none => simp
  | some label =>
    rw [List.find?_append]
    cases later.find? (·.number = step.number) with
    | some closing => simp
    | none => by_cases hnumber : last.number = step.number <;> simp [hnumber]

end PhaseStep

namespace Board

/-- The phase that is open under a number after steps. It is known by the place of the step that has
opened it, which is the last one under this number, and comes with its label. -/
def held (number : Nat) (steps : List PhaseStep) : Option (Nat × String) :=
  (steps.zipIdx.reverse.find? (·.1.number = number)).bind fun last =>
    last.1.label?.map fun label => (last.2, label)

/-- The calls that a step at a place makes after others. Each is made for a phase: the one that the
step opens, or the one that it finds under its number. -/
def callsOf (earlier : List PhaseStep) (step : PhaseStep) : List (Nat × StatusEvent) :=
  (step.label?.map fun label => (earlier.length, .start label)).toList
    ++ ((held step.number earlier).map fun found => (found.1, .finish found.2 step.flag)).toList

/-- The calls that steps make, one step after another, with the phases for which they are made. -/
def calls (steps : List PhaseStep) : List (Nat × StatusEvent) :=
  steps.zipIdx.flatMap fun (step, place) => callsOf (steps.take place) step

/-- The events of the phase that is opened at a place, among calls. -/
def eventsOf (made : List (Nat × StatusEvent)) (place : Nat) : List StatusEvent :=
  (made.filter (·.1 = place)).map Prod.snd

theorem held_append_singleton (number : Nat) (steps : List PhaseStep) (last : PhaseStep) :
    held number (steps ++ [last])
      = if last.number = number then last.label?.map fun label => (steps.length, label)
        else held number steps := by
  unfold held
  by_cases hnumber : last.number = number <;> simp [List.zipIdx_append, hnumber]

theorem lt_of_held {number : Nat} {steps : List PhaseStep} {found : Nat × String}
    (h : held number steps = some found) : found.1 < steps.length := by
  induction steps using List.reverseRecOn with
  | nil => exact nomatch h
  | append_singleton steps last ih =>
    rw [held_append_singleton] at h
    rw [List.length_append, List.length_singleton]
    -- The phase has been opened by the last step, or before it.
    by_cases hnumber : last.number = number
    · rw [if_pos hnumber] at h
      obtain ⟨label, -, rfl⟩ := Option.map_eq_some_iff.mp h
      exact Nat.lt_succ_self _
    · rw [if_neg hnumber] at h
      exact Nat.lt_succ_of_lt (ih h)

/-- The phase that a step has opened is still open when no later step has the same number. -/
theorem held_eq_some_iff (number : Nat) (before : List PhaseStep) (step : PhaseStep)
    (later : List PhaseStep) (label : String) :
    held number (before ++ step :: later) = some (before.length, label)
      ↔ step.number = number ∧ step.label? = some label
        ∧ later.find? (·.number = number) = none := by
  induction later using List.reverseRecOn with
  | nil =>
    have hbefore : ¬ held number before = some (before.length, label) := by
      intro h
      exact Nat.lt_irrefl _ (lt_of_held h)
    rw [held_append_singleton]
    by_cases hnumber : step.number = number <;> simp [hnumber, hbefore]
  | append_singleton later last ih =>
    have hsplit : before ++ step :: (later ++ [last]) = (before ++ step :: later) ++ [last] := by
      simp
    rw [hsplit, held_append_singleton, List.find?_append]
    by_cases hnumber : last.number = number
    · simp [hnumber]
    · simp [hnumber, ih]

theorem calls_append_singleton (steps : List PhaseStep) (last : PhaseStep) :
    calls (steps ++ [last]) = calls steps ++ callsOf steps last := by
  unfold calls
  rw [List.zipIdx_append, List.flatMap_append]
  congr 1
  · -- A step looks only at those before it.
    refine List.flatMap_congr ?_
    intro entry hentry
    have hplace : entry.2 < steps.length := by
      have := List.snd_lt_add_of_mem_zipIdx hentry
      simpa using this
    show callsOf ((steps ++ [last]).take entry.2) entry.1 = callsOf (steps.take entry.2) entry.1
    rw [List.take_append_of_le_length (Nat.le_of_lt hplace)]
  · simp

theorem calls_prefix (steps more : List PhaseStep) : calls steps <+: calls (steps ++ more) := by
  induction more using List.reverseRecOn with
  | nil => simp
  | append_singleton more last ih =>
    rw [← List.append_assoc, calls_append_singleton]
    exact ih.trans (List.prefix_append _ _)

/-- The calls are what the steps report, and the phases that they leave open are on the board. -/
theorem run_eq (steps : List PhaseStep) :
    (run {} steps).1 = (calls steps).map Prod.snd
      ∧ ∀ number, (run {} steps).2.get? number
        = (held number steps).map fun found => Phase.mk found.2 false := by
  induction steps using List.reverseRecOn with
  | nil => exact ⟨rfl, fun _ => rfl⟩
  | append_singleton steps last ih =>
    obtain ⟨hevents, hget⟩ := ih
    rw [run_append_singleton]
    refine ⟨?_, ?_⟩
    · -- The last step reports the phase that it opens and the one that it finds.
      show _ ++ ((run {} steps).2.step last).2.1 = _
      rw [events_step (live_empty.run steps), hevents, hget, calls_append_singleton, callsOf]
      cases last.label? <;> cases held last.number steps <;> simp
    · -- Only what is under the number of the last step changes.
      intro number
      show ((run {} steps).2.step last).2.2.get? number = _
      rw [board_step, get?_renew, hget, held_append_singleton]
      by_cases hnumber : last.number = number <;> simp [hnumber, Function.comp_def]

example : calls [.start 0 "image", .start 0 "boot", .finish 0 true]
    = [(0, .start "image"), (1, .start "boot"), (0, .finish "image" false),
        (1, .finish "boot" true)] := by
  decide

theorem eventsOf_append (made others : List (Nat × StatusEvent)) (place : Nat) :
    eventsOf (made ++ others) place = eventsOf made place ++ eventsOf others place := by
  simp [eventsOf]

theorem lt_of_mem_calls {steps : List PhaseStep} {call : Nat × StatusEvent}
    (h : call ∈ calls steps) : call.1 < steps.length := by
  induction steps using List.reverseRecOn with
  | nil => exact nomatch h
  | append_singleton steps last ih =>
    rw [calls_append_singleton, callsOf, List.mem_append, List.mem_append] at h
    rw [List.length_append, List.length_singleton]
    rcases h with h | h | h
    · exact Nat.lt_succ_of_lt (ih h)
    · obtain ⟨label, -, rfl⟩ := Option.map_eq_some_iff.mp (Option.mem_toList.mp h)
      exact Nat.lt_succ_self _
    · obtain ⟨found, hfound, rfl⟩ := Option.map_eq_some_iff.mp (Option.mem_toList.mp h)
      exact Nat.lt_succ_of_lt (lt_of_held hfound)

theorem eventsOf_calls_of_le {steps : List PhaseStep} {place : Nat} (h : steps.length ≤ place) :
    eventsOf (calls steps) place = [] := by
  rw [eventsOf, List.map_eq_nil_iff, List.filter_eq_nil_iff]
  intro call hcall
  have hlt := lt_of_mem_calls hcall
  simp only [decide_eq_true_eq]
  omega

theorem eventsOf_callsOf_self (earlier : List PhaseStep) (step : PhaseStep) :
    eventsOf (callsOf earlier step) earlier.length
      = (step.label?.map StatusEvent.start).toList := by
  unfold callsOf
  cases hheld : held step.number earlier with
  | none => cases step.label? <;> simp [eventsOf]
  | some found =>
    -- The phase that the step ends is another one, since it has been opened before.
    have hne : found.1 ≠ earlier.length := Nat.ne_of_lt (lt_of_held hheld)
    cases step.label? <;> simp [eventsOf, hne]

theorem eventsOf_callsOf_of_held {earlier : List PhaseStep} {step : PhaseStep} {place : Nat}
    {label : String} (h : held step.number earlier = some (place, label)) :
    eventsOf (callsOf earlier step) place = [.finish label step.flag] := by
  have hne : earlier.length ≠ place := Nat.ne_of_gt (lt_of_held h)
  unfold callsOf
  rw [h]
  cases step.label? <;> simp [eventsOf, hne]

theorem eventsOf_callsOf_of_not_held {earlier : List PhaseStep} {step : PhaseStep} {place : Nat}
    (hplace : place < earlier.length)
    (h : ∀ label, held step.number earlier ≠ some (place, label)) :
    eventsOf (callsOf earlier step) place = [] := by
  have hne : earlier.length ≠ place := Nat.ne_of_gt hplace
  unfold callsOf
  cases hheld : held step.number earlier with
  | none => cases step.label? <;> simp [eventsOf, hne]
  | some found =>
    have hother : found.1 ≠ place := by
      rintro rfl
      exact h found.2 hheld
    cases step.label? <;> simp [eventsOf, hne, hother]

/-- The calls that are made for the phase that a step opens are what there is to report about it. -/
theorem eventsOf_calls (before : List PhaseStep) (step : PhaseStep) (later : List PhaseStep) :
    eventsOf (calls (before ++ step :: later)) before.length = step.history later := by
  induction later using List.reverseRecOn with
  | nil =>
    rw [calls_append_singleton, eventsOf_append, eventsOf_calls_of_le (Nat.le_refl _),
      eventsOf_callsOf_self, PhaseStep.history]
    cases step.label? <;> simp
  | append_singleton later last ih =>
    have hsplit : before ++ step :: (later ++ [last]) = (before ++ step :: later) ++ [last] := by
      simp
    rw [hsplit, calls_append_singleton, eventsOf_append, ih, PhaseStep.history_append_singleton]
    congr 1
    -- The last step ends the phase if it finds it open under its number.
    by_cases hheld : ∃ label,
        held last.number (before ++ step :: later) = some (before.length, label)
    · obtain ⟨label, hheld⟩ := hheld
      obtain ⟨hnumber, hlabel, hnone⟩ := (held_eq_some_iff _ _ _ _ _).mp hheld
      rw [← hnumber] at hnone
      rw [eventsOf_callsOf_of_held hheld, if_pos ⟨hnumber.symm, hnone⟩, hlabel]
      rfl
    · have hplace : before.length < (before ++ step :: later).length := by
        simp
      rw [eventsOf_callsOf_of_not_held hplace fun label h => hheld ⟨label, h⟩]
      split
      · rename_i hclosing
        obtain ⟨hnumber, hnone⟩ := hclosing
        rw [← hnumber] at hnone
        cases hlabel : step.label? with
        | none => rfl
        | some label =>
          exact absurd ⟨label, (held_eq_some_iff _ _ _ _ _).mpr ⟨hnumber.symm, hlabel, hnone⟩⟩ hheld
      · rfl

theorem eventsOf_calls_getElem {steps : List PhaseStep} {place : Nat} (h : place < steps.length) :
    eventsOf (calls steps) place = steps[place].history (steps.drop (place + 1)) := by
  have hevents := eventsOf_calls (steps.take place) steps[place] (steps.drop (place + 1))
  rwa [List.length_take_of_le (Nat.le_of_lt h), ← List.drop_eq_getElem_cons h,
    List.take_append_drop] at hevents

/-- At every moment, what has been reported about one phase is nothing, its start, or its start and
its end. -/
theorem eventsOf_cases {steps : List PhaseStep} {made : List (Nat × StatusEvent)}
    (hmade : made <+: calls steps) (place : Nat) :
    eventsOf made place = []
      ∨ ∃ label, eventsOf made place = [.start label]
        ∨ ∃ success, eventsOf made place = [.start label, .finish label success] := by
  have hevents : eventsOf made place <+: eventsOf (calls steps) place := (hmade.filter _).map _
  rcases Nat.lt_or_ge place steps.length with hlt | hle
  · rw [eventsOf_calls_getElem hlt, PhaseStep.history] at hevents
    cases hlabel : steps[place].label? with
    | none =>
      rw [hlabel] at hevents
      exact .inl (List.prefix_nil.mp hevents)
    | some label =>
      rw [hlabel] at hevents
      -- The start is reported first.
      rcases List.prefix_cons_iff.mp hevents with hnone | ⟨ending, hstart, hending⟩
      · exact .inl hnone
      refine .inr ⟨label, ?_⟩
      rw [hstart]
      cases hclosing : (steps.drop (place + 1)).find? (·.number = steps[place].number) with
      | none =>
        rw [hclosing] at hending
        exact .inl (by rw [List.prefix_nil.mp hending])
      | some closing =>
        rw [hclosing] at hending
        rcases List.prefix_cons_iff.mp hending with hnone | ⟨rest, hfinish, hrest⟩
        · exact .inl (by rw [hnone])
        · exact .inr ⟨closing.flag, by rw [hfinish, List.prefix_nil.mp hrest]⟩
  · rw [eventsOf_calls_of_le hle] at hevents
    exact .inl (List.prefix_nil.mp hevents)

/-! ### Balance -/

/-- After some calls, the phase that is opened at a place is open and has a label: its start has
been reported, and its end has not. -/
def IsOpen (made : List (Nat × StatusEvent)) (label : String) (place : Nat) : Prop :=
  .start label ∈ eventsOf made place ∧ ∀ success, .finish label success ∉ eventsOf made place

instance (made : List (Nat × StatusEvent)) (label : String) (place : Nat) :
    Decidable (IsOpen made label place) := inferInstanceAs (Decidable (_ ∧ _))

/-- At every moment, the starts and ends of one phase differ by one if it is open, and else not. -/
theorem balance_eventsOf {steps : List PhaseStep} {made : List (Nat × StatusEvent)}
    (hmade : made <+: calls steps) (label : String) (place : Nat) :
    (eventsOf made place).count (.start label)
      = (eventsOf made place).countP (StatusEvent.endOf label)
        + if IsOpen made label place then 1 else 0 := by
  rcases eventsOf_cases hmade place with hmany | ⟨other, hmany | ⟨success, hmany⟩⟩
  · simp [IsOpen, hmany]
  · by_cases hother : label = other <;> simp [IsOpen, hmany, StatusEvent.endOf, hother, eq_comm]
  · by_cases hother : label = other <;> simp [IsOpen, hmany, StatusEvent.endOf, hother, eq_comm]

/-- Parts that differ by one or not at all differ as a whole by the number of those that do. -/
theorem countP_flatMap_eq_add {α β : Type} {f : α → List β} {p q : β → Bool} {r : α → Bool}
    (h : ∀ x, (f x).countP p = (f x).countP q + if r x then 1 else 0) (xs : List α) :
    (xs.flatMap f).countP p = (xs.flatMap f).countP q + xs.countP r := by
  induction xs with
  | nil => rfl
  | cons x xs ih =>
    rw [List.flatMap_cons, List.countP_append, List.countP_append, List.countP_cons, h, ih]
    omega

theorem balance_calls {steps : List PhaseStep} {made : List (Nat × StatusEvent)}
    (hmade : made <+: calls steps) (label : String) :
    (made.map Prod.snd).count (.start label)
      = (made.map Prod.snd).countP (StatusEvent.endOf label)
        + (List.range steps.length).countP fun place => IsOpen made label place := by
  -- The calls are taken apart by the phases for which they are made.
  have hplaces : ∀ call ∈ made, call.1 ∈ List.range steps.length := by
    intro call hcall
    exact List.mem_range.mpr (lt_of_mem_calls (hmade.subset hcall))
  have hperm : (made.map Prod.snd).Perm ((List.range steps.length).flatMap (eventsOf made)) := by
    have hparts := (perm_flatMap_filter Prod.fst List.nodup_range hplaces).map Prod.snd
    rwa [List.map_flatMap] at hparts
  rw [hperm.count_eq, hperm.countP_eq]
  refine countP_flatMap_eq_add ?_ _
  intro place
  show (eventsOf made place).count (.start label) = _
  rw [balance_eventsOf hmade]
  simp

end Board

/-! ### Sinks -/

/-- A channel that has room for all messages keeps them all. -/
theorem Channel.sendAll_of_room {α : Type} (channel : Channel α) (hopen : channel.isOpen = true)
    {messages : List α} (hroom : channel.queue.length + messages.length ≤ channel.capacity) :
    channel.sendAll messages = { channel with queue := channel.queue ++ messages } := by
  have hbound : channel.queue.length ≤ channel.capacity := by omega
  rw [sendAll_of_open hopen hbound, List.take_of_length_le]
  rwa [List.length_append]

/-- Whoever listens to a sink that passes everything on hears what the steps report. -/
theorem StatusSession.run_phases (session : StatusSession)
    (hpasses : session.sink.passesOn = true) (hopen : session.sink.channel.isOpen = true)
    {steps : List PhaseStep}
    (hroom : session.sink.channel.queue.length + (session.board.run steps).1.length
      ≤ session.sink.channel.capacity) :
    ∃ answers : List PhaseAnswer,
      session.run (steps.map SessionStep.phase ++ [.drain]) = answers.map SessionAnswer.phase
        ++ [.received (session.sink.channel.queue ++ (session.board.run steps).1)] := by
  induction steps generalizing session with
  | nil =>
    refine ⟨[], ?_⟩
    simp [StatusSession.run, StatusSession.step, Channel.drain, hopen, Board.run]
  | cons step steps ih =>
    rw [Board.run_cons, List.length_append] at hroom
    -- There is room for what this step reports, and behind it for what the others report.
    have hsent : session.sink.channel.sendAll (session.board.step step).2.1
        = { session.sink.channel with
            queue := session.sink.channel.queue ++ (session.board.step step).2.1 } :=
      Channel.sendAll_of_room _ hopen (by omega)
    have hnext : (session.step (.phase step)).2 =
        ⟨(session.board.step step).2.2, { session.sink with
          channel := { session.sink.channel with
            queue := session.sink.channel.queue ++ (session.board.step step).2.1 } }⟩ := by
      simp only [StatusSession.step, Sink.report, hpasses, if_true, hsent]
    have hrest : (session.sink.channel.queue ++ (session.board.step step).2.1).length
        + ((session.board.step step).2.2.run steps).1.length ≤ session.sink.channel.capacity := by
      rw [List.length_append]
      omega
    obtain ⟨answers, hanswers⟩ := ih ⟨(session.board.step step).2.2, { session.sink with
      channel := { session.sink.channel with
        queue := session.sink.channel.queue ++ (session.board.step step).2.1 } }⟩ hpasses hopen hrest
    refine ⟨(session.board.step step).1 :: answers, ?_⟩
    show (session.step (.phase step)).1
      :: (session.step (.phase step)).2.run (steps.map SessionStep.phase ++ [.drain]) = _
    rw [hnext, hanswers, Board.run_cons, List.append_assoc]
    rfl

namespace Board

/-- What becomes of the phases that steps open. -/
structure EndsOnce (steps : List PhaseStep) : Prop where
  /-- The calls are what the steps report. -/
  reported : (run {} steps).1 = (calls steps).map Prod.snd
  /-- A sink that loses nothing gets them all, in this order. -/
  heard : ∀ capacity, (calls steps).length ≤ capacity →
    ∃ answers : List PhaseAnswer,
      (StatusSession.new capacity true).run (steps.map SessionStep.phase ++ [.drain])
        = answers.map SessionAnswer.phase ++ [.received ((calls steps).map Prod.snd)]
  /-- Later steps only add to them. -/
  lasting : ∀ more, calls steps <+: calls (steps ++ more)
  /-- For a phase that is opened, there is the call of its start and then, once there has been
  another step under its number, the call of its end. -/
  once : ∀ before id label later, steps = before ++ .start id label :: later →
    eventsOf (calls steps) before.length = .start label
      :: ((later.find? (·.number = id)).map fun closing => .finish label closing.flag).toList
  /-- All calls are made for phases that are opened. -/
  owned : ∀ call ∈ calls steps, ∃ id label, steps[call.1]? = some (.start id label)
  /-- After every call, the starts with a label are as many as the ends and the open phases. -/
  balanced : ∀ made, made <+: calls steps → ∀ label,
    (made.map Prod.snd).count (.start label)
      = (made.map Prod.snd).countP (StatusEvent.endOf label)
        + (List.range steps.length).countP fun place => IsOpen made label place
  /-- After the steps, the open phases are those on the board. -/
  onBoard : ∀ label,
    ((List.range steps.length).countP fun place => IsOpen (calls steps) label place)
      = (run {} steps).2.phases.countP (·.2.label = label)

/-- Every phase that is opened ends once, when it is ended, dropped or replaced. -/
theorem endsOnce (steps : List PhaseStep) : EndsOnce steps where
  reported := (run_eq steps).1
  heard := by
    intro capacity hcapacity
    have hroom : (0 : Nat) + (run {} steps).1.length ≤ capacity := by
      rw [(run_eq steps).1, List.length_map]
      omega
    rw [← (run_eq steps).1]
    exact StatusSession.run_phases (.new capacity true) rfl rfl hroom
  lasting := calls_prefix steps
  once := by
    rintro before id label later rfl
    exact eventsOf_calls before (.start id label) later
  owned := by
    intro call hcall
    have hlt := lt_of_mem_calls hcall
    have hne : eventsOf (calls steps) call.1 ≠ [] := by
      simpa [eventsOf] using ⟨call.2, hcall⟩
    rw [eventsOf_calls_getElem hlt] at hne
    rw [List.getElem?_eq_getElem hlt]
    -- A step that opens no phase has no events.
    cases hstep : steps[call.1] with
    | start id label => exact ⟨id, label, rfl⟩
    | finish id success => exact absurd (by rw [hstep]; rfl) hne
    | drop id => exact absurd (by rw [hstep]; rfl) hne
  balanced := by
    intro made hmade label
    exact balance_calls hmade label
  onBoard := by
    intro label
    -- Once by the phases and once by the board, the same starts and ends are counted.
    have hcalls := balance_calls (List.prefix_refl (calls steps)) label
    have hboard := live_empty.balance_run steps label
    rw [← (run_eq steps).1] at hcalls
    simp only [List.countP_nil, Nat.add_zero] at hboard
    omega

end Board
end ClusterProvision
