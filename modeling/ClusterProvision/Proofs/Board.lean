import ClusterProvision.Status.Board

/-!
# `ClusterProvision.Proofs.Board`: steps and runs of a board

Every step does two things: it takes away what is under its number, and it opens a phase there or
does not (`Board.board_step`). It reports the start of the phase that it opens, and then the end of
the phase that it has taken away (`Board.events_step`). For this the phases on the board must still
be to be ended, and no two of them may have one number. A board that is `Board.Live` stays so
(`Board.Live.run`).

So a step adds as much to the starts and the open phases as to the ends and the phases that are open
after it, for each label (`Board.Live.balance_step`), and so does a run (`Board.Live.balance_run`).
-/

set_option autoImplicit false

namespace ClusterProvision

namespace Phase

theorem drop_of_running {phase : Phase} (h : phase.ended = false) :
    phase.drop = [.finish phase.label false] := by
  simp [drop, finish, h]

/-- The end of a phase is reported when it is ended, and not again when it is given up. -/
theorem close_of_running {phase : Phase} (h : phase.ended = false) (success : Bool) :
    phase.close success = [.finish phase.label success] := by
  show (phase.finish success).1 ++ (phase.finish success).2.drop = _
  rw [drop_finish, List.append_nil, finish, h]
  rfl

end Phase

/-! ### Steps -/

namespace PhaseStep

/-- The number under which a step does something. -/
def number : PhaseStep → Nat
  | start id _ => id
  | finish id _ => id
  | drop id => id

/-- The label of the phase that a step opens, if it opens one. -/
def label? : PhaseStep → Option String
  | start _ label => some label
  | _ => none

/-- What a step reports about the end of the phase that it finds under its number. -/
def flag : PhaseStep → Bool
  | finish _ success => success
  | _ => false

end PhaseStep

namespace Board

/-- All phases on a board are still to be ended, and each has a number of its own. -/
structure Live (board : Board) : Prop where
  running : ∀ entry ∈ board.phases, entry.2.ended = false
  distinct : (board.phases.map Prod.fst).Nodup

theorem live_empty : Live {} where
  running := nofun
  distinct := List.nodup_nil

theorem Live.running_of_get? {board : Board} (h : board.Live) {number : Nat} {phase : Phase}
    (hphase : board.get? number = some phase) : phase.ended = false := by
  obtain ⟨before, after, hsplit, -⟩ := List.lookup_eq_some_iff.mp hphase
  refine h.running (number, phase) ?_
  rw [hsplit]
  simp

/-- The board without what was under a step's number, and with the phase that the step opens. -/
def renew (board : Board) (step : PhaseStep) : Board :=
  ⟨(step.label?.map fun label => (step.number, Phase.mk label false)).toList
    ++ (board.erase step.number).phases⟩

theorem erase_of_get?_eq_none {board : Board} {number : Nat} (h : board.get? number = none) :
    board.erase number = board := by
  have hall : board.phases.filter (fun entry => entry.1 ≠ number) = board.phases := by
    refine List.filter_eq_self.mpr ?_
    intro entry hentry
    have hne := List.lookup_eq_none_iff.mp h entry hentry
    simp only [bne_iff_ne] at hne
    simp [hne.symm]
  rw [erase, hall]

/-- Every step renews the board under its number. -/
theorem board_step (board : Board) (step : PhaseStep) :
    (board.step step).2.2 = board.renew step := by
  cases step with
  | start number label => rfl
  | finish number success =>
    cases h : board.get? number with
    | some phase => simp [Board.step, h, renew, PhaseStep.label?, PhaseStep.number]
    | none =>
      simp [Board.step, h, renew, erase_of_get?_eq_none h, PhaseStep.label?, PhaseStep.number]
  | drop number =>
    cases h : board.get? number with
    | some phase => simp [Board.step, h, renew, PhaseStep.label?, PhaseStep.number]
    | none =>
      simp [Board.step, h, renew, erase_of_get?_eq_none h, PhaseStep.label?, PhaseStep.number]

/-- A step reports the start of the phase that it opens, and then the end of the phase that it finds
under its number. -/
theorem events_step {board : Board} (h : board.Live) (step : PhaseStep) :
    (board.step step).2.1 = (step.label?.map StatusEvent.start).toList
      ++ ((board.get? step.number).map fun phase => .finish phase.label step.flag).toList := by
  -- What is found has not been ended before, so giving it up or ending it is one event.
  cases step with
  | start number label =>
    cases hphase : board.get? number with
    | some phase =>
      have hdrop := Phase.drop_of_running (h.running_of_get? hphase)
      simp [Board.step, Phase.start, hphase, hdrop, PhaseStep.label?, PhaseStep.number,
        PhaseStep.flag]
    | none => simp [Board.step, Phase.start, hphase, PhaseStep.label?, PhaseStep.number]
  | finish number success =>
    cases hphase : board.get? number with
    | some phase =>
      have hclose := Phase.close_of_running (h.running_of_get? hphase) success
      simp [Board.step, hphase, hclose, PhaseStep.label?, PhaseStep.number, PhaseStep.flag]
    | none => simp [Board.step, hphase, PhaseStep.label?, PhaseStep.number]
  | drop number =>
    cases hphase : board.get? number with
    | some phase =>
      have hdrop := Phase.drop_of_running (h.running_of_get? hphase)
      simp [Board.step, hphase, hdrop, PhaseStep.label?, PhaseStep.number, PhaseStep.flag]
    | none => simp [Board.step, hphase, PhaseStep.label?, PhaseStep.number]

theorem get?_cons (number : Nat) (phase : Phase) (phases : List (Nat × Phase)) (other : Nat) :
    get? ⟨(number, phase) :: phases⟩ other
      = if number = other then some phase else get? ⟨phases⟩ other := by
  by_cases h : number = other
  · simp [get?, h]
  · have hne : (other == number) = false := beq_false_of_ne (Ne.symm h)
    simp [get?, List.lookup_cons, h, hne]

theorem erase_cons (id : Nat) (phase : Phase) (phases : List (Nat × Phase)) (number : Nat) :
    erase ⟨(id, phase) :: phases⟩ number
      = if id = number then erase ⟨phases⟩ number
        else ⟨(id, phase) :: (erase ⟨phases⟩ number).phases⟩ := by
  by_cases h : id = number <;> simp [erase, h]

theorem get?_erase (board : Board) (number other : Nat) :
    (board.erase number).get? other = if number = other then none else board.get? other := by
  obtain ⟨phases⟩ := board
  induction phases with
  | nil => simp [erase, get?]
  | cons entry phases ih =>
    obtain ⟨id, phase⟩ := entry
    rw [erase_cons, get?_cons]
    by_cases hid : id = number
    · rw [if_pos hid, ih, hid]
      by_cases hother : number = other <;> simp [hother]
    · rw [if_neg hid, get?_cons, ih]
      by_cases hother : number = other
      · simp [hother, show ¬ id = other from hother ▸ hid]
      · simp [hother]

theorem get?_renew (board : Board) (step : PhaseStep) (number : Nat) :
    (board.renew step).get? number
      = if step.number = number then step.label?.map fun label => Phase.mk label false
        else board.get? number := by
  unfold renew
  cases step.label? with
  | none => exact board.get?_erase step.number number
  | some label =>
    refine (get?_cons _ _ _ _).trans ?_
    by_cases hnumber : step.number = number
    · simp [hnumber]
    · simpa [hnumber] using board.get?_erase step.number number

theorem Live.renew {board : Board} (h : board.Live) (step : PhaseStep) :
    (board.renew step).Live := by
  have hrunning : ∀ entry ∈ (board.erase step.number).phases, entry.2.ended = false := by
    intro entry hentry
    exact h.running entry (List.mem_filter.mp hentry).1
  have hdistinct : ((board.erase step.number).phases.map Prod.fst).Nodup :=
    h.distinct.sublist (List.filter_sublist.map _)
  -- The number of the phase that is opened is free again.
  have hfree : step.number ∉ (board.erase step.number).phases.map Prod.fst := by
    simp [erase]
  unfold Board.renew
  cases step.label? with
  | none => exact ⟨hrunning, hdistinct⟩
  | some label =>
    exact ⟨List.forall_mem_cons.mpr ⟨rfl, hrunning⟩, List.nodup_cons.mpr ⟨hfree, hdistinct⟩⟩

/-- What is under a number counts once. -/
theorem Live.countP_eq {board : Board} (h : board.Live) (number : Nat) (p : Phase → Bool) :
    board.phases.countP (fun entry => p entry.2)
      = (board.erase number).phases.countP (fun entry => p entry.2)
        + (board.get? number).toList.countP p := by
  obtain ⟨phases⟩ := board
  have hdistinct : (phases.map Prod.fst).Nodup := h.distinct
  clear h
  induction phases with
  | nil => rfl
  | cons entry phases ih =>
    obtain ⟨id, phase⟩ := entry
    obtain ⟨hid, hrest⟩ := List.nodup_cons.mp hdistinct
    rw [get?_cons, erase_cons]
    by_cases hnumber : id = number
    · -- No other phase has the number, so nothing else is erased.
      have hkept : erase ⟨phases⟩ number = ⟨phases⟩ := by
        refine erase_of_get?_eq_none (List.lookup_eq_none_iff.mpr ?_)
        intro other hother
        refine bne_iff_ne.mpr ?_
        rintro rfl
        rw [hnumber] at hid
        exact hid (List.mem_map.mpr ⟨other, hother, rfl⟩)
      simp [hkept, hnumber, List.countP_cons]
    · have hcount := ih hrest
      simp only [if_neg hnumber, List.countP_cons] at hcount ⊢
      omega

end Board

/-- Whether an event reports the end of a phase with a label. -/
def StatusEvent.endOf (label : String) : StatusEvent → Bool
  | start _ => false
  | finish other _ => other = label

namespace Board

/-- With each step, starts and open phases come to as much as ends and open phases after it. -/
theorem Live.balance_step {board : Board} (h : board.Live) (step : PhaseStep) (label : String) :
    (board.step step).2.1.count (.start label) + board.phases.countP (·.2.label = label)
      = (board.step step).2.1.countP (StatusEvent.endOf label)
        + (board.step step).2.2.phases.countP (·.2.label = label) := by
  -- What is neither opened nor ended counts on both sides.
  rw [h.countP_eq step.number fun phase => phase.label = label, events_step h, board_step,
    Board.renew]
  cases step.label? with
  | none =>
    cases board.get? step.number with
    | none => simp
    | some old => simp [StatusEvent.endOf, List.countP_cons, Nat.add_comm]
  | some new =>
    cases board.get? step.number with
    | none => simp [StatusEvent.endOf, List.countP_cons, List.count_cons, Nat.add_comm]
    | some old =>
      simp [StatusEvent.endOf, List.countP_cons, List.count_cons]
      omega

/-! ### Runs -/

/-- Takes steps, one after another: the events that they report, and the board after them. -/
def run (board : Board) : List PhaseStep → List StatusEvent × Board
  | [] => ([], board)
  | step :: rest =>
    let (_, events, board) := board.step step
    let (others, board) := board.run rest
    (events ++ others, board)

theorem run_cons (board : Board) (step : PhaseStep) (steps : List PhaseStep) :
    board.run (step :: steps)
      = ((board.step step).2.1 ++ ((board.step step).2.2.run steps).1,
          ((board.step step).2.2.run steps).2) := rfl

theorem run_append_singleton (board : Board) (steps : List PhaseStep) (last : PhaseStep) :
    board.run (steps ++ [last])
      = ((board.run steps).1 ++ ((board.run steps).2.step last).2.1,
          ((board.run steps).2.step last).2.2) := by
  induction steps generalizing board with
  | nil => simp [run]
  | cons step steps ih => rw [List.cons_append, run_cons, ih, run_cons, List.append_assoc]

theorem Live.run {board : Board} (h : board.Live) (steps : List PhaseStep) :
    (board.run steps).2.Live := by
  induction steps generalizing board with
  | nil => exact h
  | cons step steps ih =>
    rw [run_cons]
    refine ih ?_
    rw [board_step]
    exact h.renew step

theorem Live.balance_run {board : Board} (h : board.Live) (steps : List PhaseStep)
    (label : String) :
    (board.run steps).1.count (.start label) + board.phases.countP (·.2.label = label)
      = (board.run steps).1.countP (StatusEvent.endOf label)
        + (board.run steps).2.phases.countP (·.2.label = label) := by
  induction steps generalizing board with
  | nil => simp [Board.run]
  | cons step steps ih =>
    have hstep := h.balance_step step label
    have hlive : (board.step step).2.2.Live := by
      rw [board_step]
      exact h.renew step
    have hrest := ih hlive
    rw [run_cons]
    dsimp only
    rw [List.count_append, List.countP_append]
    omega

end Board
end ClusterProvision
