import ClusterProvision.Proofs.Waiting
import Mathlib.Algebra.Order.Floor.Div

/-!
# `ClusterProvision.Proofs.PollLoop`: polling comes to an end

Polling is a loop: ask whether the deadline has come, probe the node for as long as there is time,
ask again, pause for no longer than there is time, and start over. Nothing counts the rounds.
`Readiness.Loops` is this loop without any bound on them, with one rule for every way in which a
round can go. It says what a loop comes to, so a loop that went on for ever would come to nothing.
Neither would one that asked how much time is left when there is none (`Readiness.left?`).

The replies may depend on all that has happened before. Still every loop comes to its end, and it is
the wait of `Readiness.await` (`loops_iff`).

How many probes there can be follows from the pauses. A probe that is followed by another one has
been answered, and then there was a whole pause (`Readiness.Follows`): a pause that is cut short
leads to the deadline, and from there on there are no probes. `Readiness.Spaced` is what holds of
the probes of a wait for this reason, so the number of those that fit before the deadline is bounded
(`Spaced.length_le`). `Readiness.bounded_wait` puts all of this together.
-/

set_option autoImplicit false

namespace ClusterProvision

namespace ProbeReply

/-- What a probe answers within a limit, and after which time. A probe without an answer by then is
cut off. -/
def within? : ProbeReply → Nat → Option (Bool × Nat)
  | answer ready delay, limit => if delay ≤ limit then some (ready, delay) else none
  | silence, _ => none

theorem within?_eq_some_iff {reply : ProbeReply} {limit delay : Nat} {ready : Bool} :
    reply.within? limit = some (ready, delay) ↔ reply = answer ready delay ∧ delay ≤ limit := by
  cases reply with
  | silence => simp [within?]
  | answer other otherDelay =>
    simp only [within?, Option.ite_none_right_eq_some, Option.some.injEq, Prod.mk.injEq,
      answer.injEq]
    constructor
    · rintro ⟨hle, rfl, rfl⟩
      exact ⟨⟨rfl, rfl⟩, hle⟩
    · rintro ⟨⟨rfl, rfl⟩, hle⟩
      exact ⟨hle, rfl, rfl⟩

theorem within?_of_late {ready : Bool} {limit delay : Nat} (h : limit < delay) :
    (answer ready delay).within? limit = none :=
  if_neg (Nat.not_le.mpr h)

end ProbeReply

namespace Readiness

/-! ### The loop -/

/-- The time that is left until the deadline. From the deadline on there is no such thing. -/
def left? (deadline now : Nat) : Option Nat :=
  if now < deadline then some (deadline - now) else none

theorem left?_eq_some_iff {deadline now left : Nat} :
    left? deadline now = some left ↔ now < deadline ∧ left = deadline - now := by
  unfold left?
  split <;> simp [*, eq_comm]

/-- What the loop comes to that goes on from a time, after some probes, the latest first. -/
inductive Loops (probing : Probing) (deadline interval : Nat) : List Probe → Nat → Wait → Prop
  /-- The deadline has come. -/
  | past {made : List Probe} {now : Nat} (hpast : deadline ≤ now) :
    Loops probing deadline interval made now ⟨false, now, made.reverse⟩
  /-- The probe has no answer in the time that is left. -/
  | cut {made : List Probe} {now limit : Nat} (hnow : ¬ deadline ≤ now)
    (hlimit : left? deadline now = some limit)
    (hcut : (probing.reply made).within? limit = none) :
    Loops probing deadline interval made now
      ⟨false, now + limit, (⟨now, probing.reply made⟩ :: made).reverse⟩
  /-- The probe finds the node ready. -/
  | ready {made : List Probe} {now limit delay : Nat} (hnow : ¬ deadline ≤ now)
    (hlimit : left? deadline now = some limit)
    (hanswer : (probing.reply made).within? limit = some (true, delay)) :
    Loops probing deadline interval made now
      ⟨true, now + delay, (⟨now, probing.reply made⟩ :: made).reverse⟩
  /-- The deadline has come with the answer that the node is not ready. -/
  | lapsed {made : List Probe} {now limit delay : Nat} (hnow : ¬ deadline ≤ now)
    (hlimit : left? deadline now = some limit)
    (hanswer : (probing.reply made).within? limit = some (false, delay))
    (hlapsed : deadline ≤ now + delay) :
    Loops probing deadline interval made now
      ⟨false, now + delay, (⟨now, probing.reply made⟩ :: made).reverse⟩
  /-- The node is not ready, and after a pause the loop starts over. -/
  | again {made : List Probe} {now limit delay rest : Nat} {wait : Wait} (hnow : ¬ deadline ≤ now)
    (hlimit : left? deadline now = some limit)
    (hanswer : (probing.reply made).within? limit = some (false, delay))
    (htime : ¬ deadline ≤ now + delay) (hrest : left? deadline (now + delay) = some rest)
    (hloops : Loops probing deadline interval (⟨now, probing.reply made⟩ :: made)
      (now + delay + min interval rest) wait) :
    Loops probing deadline interval made now wait

section
variable {probing : Probing} {deadline interval : Nat}

section
variable {made : List Probe} {now : Nat} (hnow : now < deadline)
include hnow

/-- A probe that is cut off is cut off at the deadline. -/
theorem loops_of_cut {reply : ProbeReply} (hreply : probing.reply made = reply)
    (hcut : reply.within? (deadline - now) = none) :
    Loops probing deadline interval made now ⟨false, deadline, (⟨now, reply⟩ :: made).reverse⟩ := by
  subst hreply
  have hloops : Loops probing deadline interval made now _ :=
    .cut (Nat.not_le.mpr hnow) (left?_eq_some_iff.mpr ⟨hnow, rfl⟩) hcut
  rwa [Nat.add_sub_of_le (Nat.le_of_lt hnow)] at hloops

theorem loops_of_ready {delay : Nat} (hreply : probing.reply made = .answer true delay)
    (htime : now + delay ≤ deadline) :
    Loops probing deadline interval made now
      ⟨true, now + delay, (⟨now, .answer true delay⟩ :: made).reverse⟩ := by
  rw [← hreply]
  exact .ready (Nat.not_le.mpr hnow) (left?_eq_some_iff.mpr ⟨hnow, rfl⟩)
    (ProbeReply.within?_eq_some_iff.mpr ⟨hreply, by omega⟩)

/-- When the deadline has come with the answer, no time is left to ask for, and no pause is made. -/
theorem loops_of_lapsed {delay : Nat} (hreply : probing.reply made = .answer false delay)
    (hlapsed : now + delay = deadline) :
    Loops probing deadline interval made now
      ⟨false, deadline, (⟨now, .answer false delay⟩ :: made).reverse⟩ := by
  have hloops : Loops probing deadline interval made now _ :=
    .lapsed (Nat.not_le.mpr hnow) (left?_eq_some_iff.mpr ⟨hnow, rfl⟩)
      (ProbeReply.within?_eq_some_iff.mpr ⟨hreply, by omega⟩) (Nat.le_of_eq hlapsed.symm)
  rwa [hlapsed, hreply] at hloops

theorem loops_of_again {delay : Nat} {wait : Wait}
    (hreply : probing.reply made = .answer false delay) (htime : now + delay < deadline)
    (hloops : Loops probing deadline interval (⟨now, .answer false delay⟩ :: made)
      (now + delay + min interval (deadline - (now + delay))) wait) :
    Loops probing deadline interval made now wait := by
  rw [← hreply] at hloops
  exact .again (Nat.not_le.mpr hnow) (left?_eq_some_iff.mpr ⟨hnow, rfl⟩)
    (ProbeReply.within?_eq_some_iff.mpr ⟨hreply, by omega⟩) (Nat.not_le.mpr htime)
    (left?_eq_some_iff.mpr ⟨htime, rfl⟩) hloops

end

variable (hpause : 0 < interval)
include hpause

/-- The loop comes to an end, whatever the node replies, and never gets stuck before. -/
theorem loops_await (made : List Probe) (now : Nat) :
    Loops probing deadline interval made now (await probing deadline interval made now) := by
  induction made, now using await_induction probing deadline hpause with
  | past made now hpast =>
    rw [await_of_past hpast]
    exact .past hpast
  | silence made now hnow hreply =>
    rw [await_of_silence hpause hnow hreply]
    exact loops_of_cut hnow hreply rfl
  | late made now ready delay hnow hreply hlate =>
    rw [await_of_late hpause hnow hreply hlate]
    exact loops_of_cut hnow hreply (ProbeReply.within?_of_late (by omega))
  | ready made now delay hnow hreply htime =>
    rw [await_of_ready hpause hnow hreply htime]
    exact loops_of_ready hnow hreply htime
  | again made now delay hnow hreply htime ih =>
    rw [await_of_not_ready hpause hnow hreply htime]
    rcases Nat.lt_or_eq_of_le htime with hlt | hlapsed
    · exact loops_of_again hnow hreply hlt ih
    · rw [await_of_past (by omega), hlapsed, Nat.sub_self, Nat.min_zero, Nat.add_zero]
      exact loops_of_lapsed hnow hreply hlapsed

/-- The loop comes to one end only. -/
theorem eq_await_of_loops {made : List Probe} {now : Nat} {wait : Wait}
    (h : Loops probing deadline interval made now wait) :
    wait = await probing deadline interval made now := by
  induction h with
  | past hpast => rw [await_of_past hpast]
  | @cut made now limit hnow hlimit hcut =>
    obtain ⟨hlt, rfl⟩ := left?_eq_some_iff.mp hlimit
    rw [Nat.add_sub_of_le (Nat.le_of_lt hlt)]
    cases hreply : probing.reply made with
    | silence => rw [await_of_silence hpause hlt hreply]
    | answer ready delay =>
      -- An answer in time would not have been cut off.
      have hlate : deadline < now + delay := by
        by_contra hle
        rw [ProbeReply.within?_eq_some_iff.mpr ⟨hreply, by omega⟩] at hcut
        exact nomatch hcut
      rw [await_of_late hpause hlt hreply hlate]
  | ready hnow hlimit hanswer =>
    obtain ⟨hlt, rfl⟩ := left?_eq_some_iff.mp hlimit
    obtain ⟨hreply, hle⟩ := ProbeReply.within?_eq_some_iff.mp hanswer
    rw [await_of_ready hpause hlt hreply (by omega), hreply]
  | lapsed hnow hlimit hanswer hlapsed =>
    obtain ⟨hlt, rfl⟩ := left?_eq_some_iff.mp hlimit
    obtain ⟨hreply, hle⟩ := ProbeReply.within?_eq_some_iff.mp hanswer
    rw [await_of_not_ready hpause hlt hreply (by omega), await_of_past (by omega), hreply,
      Nat.sub_eq_zero_of_le hlapsed, Nat.min_zero, Nat.add_zero]
  | again hnow hlimit hanswer htime hrest hloops ih =>
    obtain ⟨hlt, rfl⟩ := left?_eq_some_iff.mp hlimit
    obtain ⟨-, rfl⟩ := left?_eq_some_iff.mp hrest
    obtain ⟨hreply, hle⟩ := ProbeReply.within?_eq_some_iff.mp hanswer
    rw [ih, await_of_not_ready hpause hlt hreply (by omega), hreply]

theorem loops_iff {made : List Probe} {now : Nat} {wait : Wait} :
    Loops probing deadline interval made now wait
      ↔ wait = await probing deadline interval made now := by
  constructor
  · exact eq_await_of_loops hpause
  · rintro rfl
    exact loops_await hpause made now

end

/-! ### The probes of a wait -/

/-- A probe comes after the answer to another one, and after a whole pause. -/
def Follows (interval : Nat) (earlier later : Probe) : Prop :=
  ∃ delay, earlier.reply = .answer false delay ∧ earlier.start + delay + interval ≤ later.start

/-- Probes from a time on, up to a deadline. -/
structure Spaced (deadline interval now : Nat) (probes : List Probe) : Prop where
  since : ∀ probe ∈ probes, now ≤ probe.start
  before : ∀ probe ∈ probes, probe.start < deadline
  apart : probes.Pairwise (Follows interval)

namespace Spaced

variable {deadline interval now : Nat} {probes : List Probe}

theorem nil : Spaced deadline interval now [] where
  since := by simp
  before := by simp
  apart := .nil

theorem single (hnow : now < deadline) (reply : ProbeReply) :
    Spaced deadline interval now [⟨now, reply⟩] where
  since := by simp
  before := by simpa using hnow
  apart := List.pairwise_singleton _ _

/-- A probe whose answer is followed by a pause, and by more probes if the pause was not cut
short. -/
theorem cons {delay : Nat} (hnow : now < deadline)
    (h : Spaced deadline interval (now + delay + min interval (deadline - (now + delay))) probes) :
    Spaced deadline interval now (⟨now, .answer false delay⟩ :: probes) where
  since := by
    refine List.forall_mem_cons.mpr ⟨Nat.le_refl now, ?_⟩
    intro probe hprobe
    have hsince := h.since probe hprobe
    omega
  before := List.forall_mem_cons.mpr ⟨hnow, h.before⟩
  apart := by
    refine List.pairwise_cons.mpr ⟨?_, h.apart⟩
    intro probe hprobe
    have hsince := h.since probe hprobe
    have hbefore := h.before probe hprobe
    -- After a pause that is cut short it is too late for a probe.
    exact ⟨delay, rfl, show now + delay + interval ≤ probe.start by omega⟩

/-- Each probe starts as many pauses later as there are probes before it. -/
theorem start_le (h : Spaced deadline interval now probes) {place : Nat} {probe : Probe}
    (hprobe : probes[place]? = some probe) : now + place * interval ≤ probe.start := by
  -- The probes after the first one are spaced, too, from a pause later on.
  induction probes generalizing now place with
  | nil => exact nomatch hprobe
  | cons first probes ih =>
    have hfirst := h.since first List.mem_cons_self
    cases place with
    | zero =>
      cases hprobe
      omega
    | succ place =>
      have hrest : Spaced deadline interval (now + interval) probes := by
        refine ⟨?_, fun later hlater => h.before later (List.mem_cons_of_mem _ hlater),
          (List.pairwise_cons.mp h.apart).2⟩
        intro later hlater
        obtain ⟨delay, -, hpause⟩ := (List.pairwise_cons.mp h.apart).1 later hlater
        omega
      have hstart := ih hrest hprobe
      rw [Nat.succ_mul]
      omega

/-- The last of the probes starts before the deadline, too. -/
theorem length_le (h : Spaced deadline interval now probes) (hpause : 0 < interval) :
    probes.length ≤ (deadline - now) ⌈/⌉ interval := by
  cases hlength : probes.length with
  | zero => exact Nat.zero_le _
  | succ places =>
    have hlast : probes[places]? = some probes[places] := List.getElem?_eq_getElem (by omega)
    have hstart := h.start_le hlast
    have hbefore := h.before _ (List.mem_of_getElem? hlast)
    -- As many whole pauses as there are places before the last one do not reach the deadline.
    refine Nat.lt_of_not_le fun hfew => ?_
    rw [ceilDiv_le_iff_le_mul hpause, Nat.mul_comm] at hfew
    omega

end Spaced

section
variable {probing : Probing} {deadline interval : Nat} (hpause : 0 < interval)
include hpause

/-- What a wait that goes on adds to the probes. -/
theorem exists_spaced_await (made : List Probe) (now : Nat) :
    ∃ added, (await probing deadline interval made now).probes = made.reverse ++ added
      ∧ Spaced deadline interval now added := by
  induction made, now using await_induction probing deadline hpause with
  | past made now hpast =>
    rw [await_of_past hpast]
    exact ⟨[], (List.append_nil _).symm, .nil⟩
  | silence made now hnow hreply =>
    rw [await_of_silence hpause hnow hreply]
    exact ⟨_, List.reverse_cons, .single hnow _⟩
  | late made now ready delay hnow hreply hlate =>
    rw [await_of_late hpause hnow hreply hlate]
    exact ⟨_, List.reverse_cons, .single hnow _⟩
  | ready made now delay hnow hreply htime =>
    rw [await_of_ready hpause hnow hreply htime]
    exact ⟨_, List.reverse_cons, .single hnow _⟩
  | again made now delay hnow hreply htime ih =>
    obtain ⟨added, hprobes, hspaced⟩ := ih
    rw [await_of_not_ready hpause hnow hreply htime, hprobes]
    exact ⟨_, by rw [List.reverse_cons, List.append_assoc]; rfl, hspaced.cons hnow⟩

/-- A wait does not outlast its deadline. -/
theorem finish_await_le (made : List Probe) (now : Nat) :
    (await probing deadline interval made now).finish ≤ max now deadline := by
  induction made, now using await_induction probing deadline hpause with
  | past made now hpast =>
    rw [await_of_past hpast]
    exact Nat.le_max_left now deadline
  | silence made now hnow hreply =>
    rw [await_of_silence hpause hnow hreply]
    exact Nat.le_max_right now deadline
  | late made now ready delay hnow hreply hlate =>
    rw [await_of_late hpause hnow hreply hlate]
    exact Nat.le_max_right now deadline
  | ready made now delay hnow hreply htime =>
    rw [await_of_ready hpause hnow hreply htime]
    exact Nat.le_trans htime (Nat.le_max_right now deadline)
  | again made now delay hnow hreply htime ih =>
    rw [await_of_not_ready hpause hnow hreply htime]
    omega

end

/-! ### Whole waits -/

/-- The bounds on a wait from a start to a deadline, whatever the node replies. -/
structure Bounded (probing : Probing) (start deadline interval : Nat) (wait : Wait) : Prop where
  /-- The loop comes to this wait and to no other. So it always ends, and it asks how much time is
  left only while there is some. -/
  ends : ∀ other, Loops probing deadline interval [] start other ↔ other = wait
  /-- It ends at the deadline at the latest, or at once if that is past. -/
  finish : wait.finish ≤ max start deadline
  /-- There are no more probes than pauses fit into the time, the last one in part. -/
  count : wait.probes.length ≤ (deadline - start) ⌈/⌉ interval
  /-- No probe starts at the deadline or later. -/
  before : ∀ probe ∈ wait.probes, probe.start < deadline
  /-- Before a probe starts, all earlier ones have been answered, each at least a pause ago. -/
  apart : wait.probes.Pairwise (Follows interval)

/-- A wait is bounded, whatever the node replies. -/
theorem bounded_wait (probing : Probing) (start deadline : Nat) {interval : Nat}
    (hpause : 0 < interval) :
    Bounded probing start deadline interval (wait probing start deadline interval) := by
  rw [wait_eq_await hpause]
  obtain ⟨added, hprobes, hspaced⟩ : ∃ added,
      (await probing deadline interval [] start).probes = [].reverse ++ added
        ∧ Spaced deadline interval start added := exists_spaced_await hpause [] start
  rw [List.reverse_nil, List.nil_append] at hprobes
  refine { ends := fun other => loops_iff hpause, finish := finish_await_le hpause [] start
           count := ?count, before := ?before, apart := ?apart }
  case count =>
    rw [hprobes]
    exact hspaced.length_le hpause
  case before =>
    rw [hprobes]
    exact hspaced.before
  case apart =>
    rw [hprobes]
    exact hspaced.apart

/-- A node that answers at once, then more slowly each time, and that falls silent as soon as it has
been probed late. -/
def weary : Probing where
  reply made :=
    match made with
    | [] => .answer false 0
    | last :: _ => if last.start < 700 then .answer false (10 * made.length) else .silence

theorem bounded_wait_weary :
    0 < 250 ∧ wait weary 100 1000 250
        = ⟨false, 1000, [⟨100, .answer false 0⟩, ⟨350, .answer false 10⟩, ⟨610, .answer false 20⟩,
            ⟨880, .answer false 30⟩]⟩
      ∧ (1000 - 100) ⌈/⌉ 250 = 4
      ∧ Bounded weary 100 1000 250 (wait weary 100 1000 250) :=
  ⟨by decide, by decide, by decide, bounded_wait weary 100 1000 (by decide)⟩

end Readiness
end ClusterProvision
