import ClusterProvision.Proofs.Waiting

/-!
# `ClusterProvision.Proofs.ProbeTimes`: a wait by the times of its probes

A script says what comes of each probe (`item`). If nothing were ever cut short, the probes would
start at fixed times: each one a pause after the answer to the one before (`due`). The first item
that is ready, or that never answers, is the last one that matters (`Concludes`).

A deadline cuts probes and pauses short, and yet these times decide everything. At every point of a
wait the probes so far are the first ones that are due, all before the deadline, and the wait has
come to the time of the next one, or to the deadline (`Underway`). It ends in one of three ways:

* `closedForm_of_past`: the next probe is not due before the deadline.
* `closedForm_of_cut`: the concluding probe has no answer by the deadline.
* `closedForm_of_ready`: the concluding probe answers in time that the node is ready.

`closedForm_wait` is the closed form of a wait that this gives.
-/

set_option autoImplicit false

namespace ClusterProvision

namespace ProbeReply

/-- How long the answer takes. -/
def delay : ProbeReply → Nat
  | answer _ delay => delay
  | silence => 0

/-- Whether no probe follows, however much time there is: the node is ready, or it never answers. -/
def conclusive : ProbeReply → Bool
  | answer ready _ => ready
  | silence => true

end ProbeReply

namespace Readiness

/-! ### Scripts -/

/-- What comes of the probe with the given number, from 0 on. The last item of a script repeats, and
under an empty script a node is ready at once. -/
def item : List ProbeReply → Nat → ProbeReply
  | [], _ => .answer true 0
  | [last], _ => last
  | first :: _ :: _, 0 => first
  | _ :: second :: rest, i + 1 => item (second :: rest) i

theorem reply_ofList (script : List ProbeReply) (made : List Probe) :
    (Probing.ofList script).reply made = item script made.length := by
  show (script[made.length]?.or script.getLast?).getD (.answer true 0) = _
  generalize made.length = i
  fun_induction item script i with
  | case1 => rfl
  | case2 last i => cases i <;> rfl
  | case3 first second rest => rfl
  | case4 first second rest i ih =>
    rw [← ih, List.getElem?_cons_succ, List.getLast?_cons_cons]

section
variable (script : List ProbeReply) (interval start : Nat)

/-- When a probe starts that nothing has held up or cut short before. -/
def due : Nat → Nat
  | 0 => start
  | i + 1 => due i + (item script i).delay + interval

/-- A probe is the first one that is conclusive. -/
structure Concludes (k : Nat) : Prop where
  conclusive : (item script k).conclusive = true
  first : ∀ j, j < k → (item script j).conclusive = false

/-- The first probes, when they are due. -/
def firstProbes (n : Nat) : List Probe :=
  (List.range n).map fun i => ⟨due script interval start i, item script i⟩

theorem firstProbes_succ (n : Nat) :
    firstProbes script interval start (n + 1)
      = firstProbes script interval start n ++ [⟨due script interval start n, item script n⟩] := by
  rw [firstProbes, List.range_succ, List.map_append]
  rfl

theorem due_mono {i j : Nat} (h : i ≤ j) :
    due script interval start i ≤ due script interval start j := by
  induction h with
  | refl => exact Nat.le_refl _
  | step _ ih =>
    rw [due]
    omega

end

theorem Concludes.unique {script : List ProbeReply} {j k : Nat} (hj : Concludes script j)
    (hk : Concludes script k) : j = k := by
  rcases Nat.lt_trichotomy j k with hlt | heq | hgt
  · exact absurd (hj.conclusive.symm.trans (hk.first j hlt)) Bool.noConfusion
  · exact heq
  · exact absurd (hk.conclusive.symm.trans (hj.first k hgt)) Bool.noConfusion

/-! ### The ends of a wait -/

/-- What a wait comes to, by the times at which its probes are due. -/
structure ClosedForm (script : List ProbeReply) (start deadline interval : Nat) (wait : Wait) :
    Prop where
  /-- The node is found ready if the concluding probe starts before the deadline, and answers by it
  that the node is. -/
  ready_iff : wait.ready = true ↔ ∃ k delay, Concludes script k
    ∧ item script k = .answer true delay ∧ due script interval start k < deadline
    ∧ due script interval start k + delay ≤ deadline
  /-- Then the wait ends with this answer. -/
  finish_of_ready : ∀ k, Concludes script k → wait.ready = true →
    wait.finish = due script interval start k + (item script k).delay
  /-- In every other case it ends at the deadline, or at once if that is past. -/
  finish_of_not_ready : wait.ready = false → wait.finish = max start deadline
  /-- The probes are those that are due before the deadline, up to the concluding one if there is
  one, each at its time. -/
  probes : ∃ n, wait.probes = firstProbes script interval start n
    ∧ ∀ i, i < n ↔ due script interval start i < deadline ∧ ∀ k, Concludes script k → i ≤ k

section
variable {script : List ProbeReply} {interval start deadline n finish : Nat}

/-- After probes that conclude nothing, none is due before the deadline. -/
theorem closedForm_of_past (hdue : ∀ i, i < n → due script interval start i < deadline)
    (hopen : ∀ i, i < n → (item script i).conclusive = false)
    (hpast : deadline ≤ due script interval start n) (hfinish : finish = max start deadline) :
    ClosedForm script start deadline interval
      ⟨false, finish, firstProbes script interval start n⟩ := by
  -- A concluding probe would be one of those that are not due.
  have hlater : ∀ k, Concludes script k → n ≤ k := by
    intro k hk
    refine Nat.le_of_not_lt fun hlt => ?_
    exact absurd (hk.conclusive.symm.trans (hopen k hlt)) Bool.noConfusion
  refine { ready_iff := ⟨fun hready => (nomatch hready), ?never⟩
           finish_of_ready := fun _ _ hready => (nomatch hready)
           finish_of_not_ready := fun _ => hfinish
           probes := ⟨n, rfl, fun i => ⟨fun hi => ⟨hdue i hi, ?first⟩, ?only⟩⟩ }
  case never =>
    rintro ⟨k, delay, hk, -, hbefore, -⟩
    have hmono := due_mono script interval start (hlater k hk)
    omega
  case first =>
    intro k hk
    exact Nat.le_of_lt (Nat.lt_of_lt_of_le hi (hlater k hk))
  case only =>
    rintro ⟨hbefore, -⟩
    refine Nat.lt_of_not_le fun hle => ?_
    have hmono := due_mono script interval start hle
    omega

/-- The probes up to the concluding one, all due before the deadline. -/
theorem lt_succ_iff_of_concludes (hdue : ∀ i, i ≤ n → due script interval start i < deadline)
    (hn : Concludes script n) (i : Nat) :
    i < n + 1 ↔ due script interval start i < deadline ∧ ∀ k, Concludes script k → i ≤ k := by
  constructor
  · intro hi
    have hle : i ≤ n := Nat.le_of_lt_succ hi
    refine ⟨hdue i hle, fun k hk => ?_⟩
    rw [hk.unique hn]
    exact hle
  · rintro ⟨-, hle⟩
    exact Nat.lt_succ_of_le (hle n hn)

/-- The concluding probe never answers, or too late. -/
theorem closedForm_of_cut (hdue : ∀ i, i ≤ n → due script interval start i < deadline)
    (hn : Concludes script n)
    (hcut : ∀ delay, item script n = .answer true delay →
      deadline < due script interval start n + delay)
    (hfinish : finish = max start deadline) :
    ClosedForm script start deadline interval
      ⟨false, finish, firstProbes script interval start (n + 1)⟩ := by
  refine { ready_iff := ⟨fun hready => (nomatch hready), ?_⟩
           finish_of_ready := fun _ _ hready => (nomatch hready)
           finish_of_not_ready := fun _ => hfinish
           probes := ⟨n + 1, rfl, lt_succ_iff_of_concludes hdue hn⟩ }
  rintro ⟨k, delay, hk, hitem, -, htime⟩
  rw [hk.unique hn] at hitem htime
  have hlate := hcut delay hitem
  omega

/-- The concluding probe answers in time. -/
theorem closedForm_of_ready (hdue : ∀ i, i ≤ n → due script interval start i < deadline)
    (hn : Concludes script n) {delay : Nat} (hitem : item script n = .answer true delay)
    (htime : due script interval start n + delay ≤ deadline) :
    ClosedForm script start deadline interval
      ⟨true, due script interval start n + delay, firstProbes script interval start (n + 1)⟩ := by
  refine { ready_iff := ?_
           finish_of_ready := ?_
           finish_of_not_ready := fun hready => (nomatch hready)
           probes := ⟨n + 1, rfl, lt_succ_iff_of_concludes hdue hn⟩ }
  · exact ⟨fun _ => ⟨n, delay, hn, hitem, hdue n (Nat.le_refl n), htime⟩, fun _ => rfl⟩
  · intro k hk _
    rw [hk.unique hn, hitem]
    rfl

end

/-! ### Along a wait -/

/-- Where a wait is after some probes, the latest first: they were due before the deadline and have
concluded nothing, and now the next one is due, or the deadline has come before that. -/
structure Underway (script : List ProbeReply) (interval start deadline : Nat) (made : List Probe)
    (now n : Nat) : Prop where
  made_eq : made = (firstProbes script interval start n).reverse
  due_lt : ∀ i, i < n → due script interval start i < deadline
  inconclusive : ∀ i, i < n → (item script i).conclusive = false
  now_eq : now = min (due script interval start n) (max start deadline)

namespace Underway

theorem new (script : List ProbeReply) (interval start deadline : Nat) :
    Underway script interval start deadline [] start 0 where
  made_eq := rfl
  due_lt := fun _ hi => nomatch hi
  inconclusive := fun _ hi => nomatch hi
  now_eq := (Nat.min_eq_left (Nat.le_max_left _ _)).symm

variable {script : List ProbeReply} {interval start deadline n now : Nat} {made : List Probe}
  (h : Underway script interval start deadline made now n)
include h

theorem length_made : made.length = n := by
  rw [h.made_eq, List.length_reverse, firstProbes, List.length_map, List.length_range]

theorem item_eq {reply : ProbeReply} (hreply : (Probing.ofList script).reply made = reply) :
    item script n = reply := by
  rw [← h.length_made, ← reply_ofList, hreply]

/-- While there is time, the next probe is on time. -/
theorem due_eq (hnow : now < deadline) : due script interval start n = now := by
  have hnow' := h.now_eq
  omega

theorem due_le (hnow : now < deadline) (i : Nat) (hi : i ≤ n) :
    due script interval start i < deadline := by
  rcases Nat.lt_or_eq_of_le hi with hlt | rfl
  · exact h.due_lt i hlt
  · rw [h.due_eq hnow]
    exact hnow

theorem max_eq (hnow : now < deadline) : max start deadline = deadline := by
  have hstart := due_mono script interval start (Nat.zero_le n)
  rw [h.due_eq hnow, due] at hstart
  omega

/-- The probe that is made now, and those before it, are the first ones. -/
theorem reverse_cons {reply : ProbeReply} (hnow : now < deadline)
    (hreply : (Probing.ofList script).reply made = reply) :
    ((⟨now, reply⟩ :: made : List Probe)).reverse = firstProbes script interval start (n + 1) := by
  rw [firstProbes_succ, h.due_eq hnow, h.item_eq hreply, List.reverse_cons, h.made_eq,
    List.reverse_reverse]

theorem concludes {reply : ProbeReply} (hreply : (Probing.ofList script).reply made = reply)
    (hconclusive : reply.conclusive = true) : Concludes script n where
  conclusive := by
    rw [h.item_eq hreply]
    exact hconclusive
  first := h.inconclusive

theorem inconclusive_le {reply : ProbeReply}
    (hreply : (Probing.ofList script).reply made = reply) (hopen : reply.conclusive = false) :
    ∀ i, i < n + 1 → (item script i).conclusive = false := by
  intro i hi
  rcases Nat.lt_or_eq_of_le (Nat.le_of_lt_succ hi) with hlt | rfl
  · exact h.inconclusive i hlt
  · rw [h.item_eq hreply]
    exact hopen

/-- After an answer in time, a pause goes on to the next probe or to the deadline. -/
theorem again {delay : Nat} (hnow : now < deadline)
    (hreply : (Probing.ofList script).reply made = .answer false delay)
    (htime : now + delay ≤ deadline) :
    Underway script interval start deadline (⟨now, .answer false delay⟩ :: made)
      (now + delay + min interval (deadline - (now + delay))) (n + 1) where
  made_eq := by rw [← h.reverse_cons hnow hreply, List.reverse_reverse]
  due_lt := fun i hi => h.due_le hnow i (Nat.le_of_lt_succ hi)
  inconclusive := h.inconclusive_le hreply rfl
  now_eq := by
    rw [h.max_eq hnow, due, h.due_eq hnow, h.item_eq hreply, ProbeReply.delay]
    omega

end Underway

theorem closedForm_await {script : List ProbeReply} {interval start deadline : Nat}
    (hpause : 0 < interval) (made : List Probe) (now : Nat) :
    ∀ n, Underway script interval start deadline made now n →
      ClosedForm script start deadline interval
        (await (.ofList script) deadline interval made now) := by
  induction made, now using await_induction (.ofList script) deadline hpause with
  | past made now hpast =>
    intro n h
    have hnow : now = max start deadline := by
      have hstart := due_mono script interval start (Nat.zero_le n)
      have hnow' := h.now_eq
      rw [due] at hstart
      omega
    have hdue : deadline ≤ due script interval start n := by
      have hnow' := h.now_eq
      omega
    rw [await_of_past hpast, h.made_eq, List.reverse_reverse]
    exact closedForm_of_past h.due_lt h.inconclusive hdue hnow
  | silence made now hnow hreply =>
    intro n h
    rw [await_of_silence hpause hnow hreply, h.reverse_cons hnow hreply]
    refine closedForm_of_cut (h.due_le hnow) (h.concludes hreply rfl) (fun delay hitem => ?_)
      (h.max_eq hnow).symm
    rw [h.item_eq hreply] at hitem
    exact nomatch hitem
  | late made now ready delay hnow hreply hlate =>
    intro n h
    rw [await_of_late hpause hnow hreply hlate, h.reverse_cons hnow hreply]
    cases ready with
    | true =>
      refine closedForm_of_cut (h.due_le hnow) (h.concludes hreply rfl) (fun other hitem => ?_)
        (h.max_eq hnow).symm
      rw [h.item_eq hreply] at hitem
      cases hitem
      rw [h.due_eq hnow]
      exact hlate
    | false =>
      -- The answer would only be followed by a probe after the deadline.
      refine closedForm_of_past (fun i hi => h.due_le hnow i (Nat.le_of_lt_succ hi))
        (h.inconclusive_le hreply rfl) ?_ (h.max_eq hnow).symm
      rw [due, h.due_eq hnow, h.item_eq hreply, ProbeReply.delay]
      omega
  | ready made now delay hnow hreply htime =>
    intro n h
    rw [await_of_ready hpause hnow hreply htime, h.reverse_cons hnow hreply, ← h.due_eq hnow]
    rw [← h.due_eq hnow] at htime
    exact closedForm_of_ready (h.due_le hnow) (h.concludes hreply rfl) (h.item_eq hreply) htime
  | again made now delay hnow hreply htime ih =>
    intro n h
    rw [await_of_not_ready hpause hnow hreply htime]
    exact ih (n + 1) (h.again hnow hreply htime)

/-- A wait is decided by the times at which its probes are due. -/
theorem closedForm_wait {interval : Nat} (hpause : 0 < interval) (script : List ProbeReply)
    (start deadline : Nat) :
    ClosedForm script start deadline interval
      (wait (.ofList script) start deadline interval) := by
  rw [wait_eq_await hpause]
  exact closedForm_await hpause [] start 0 (.new script interval start deadline)

/-- The answer to the second probe comes at the deadline. -/
theorem closedForm_wait_justInTime :
    0 < 250 ∧ (wait (.ofList [.answer false 20, .answer true 30]) 100 400 250).ready = true
      ∧ ClosedForm [.answer false 20, .answer true 30] 100 400 250
        (wait (.ofList [.answer false 20, .answer true 30]) 100 400 250) :=
  ⟨by decide, rfl, closedForm_wait (by decide) _ 100 400⟩

end Readiness
end ClusterProvision
