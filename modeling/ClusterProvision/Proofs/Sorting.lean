import ClusterProvision.RoleOrder
import Mathlib.Data.List.Nodup

/-!
# `ClusterProvision.Proofs.Sorting`: what sorting by a key gives

Sorting by a key brings the keys into order (`sorted_mergeSort`). Sorting by a number keeps the
elements (`sortOn_perm`) and leaves those of one key in the order in which they came
(`filter_sortOn`). There is one list that is in order and has the elements of each key as they
came (`sortOn_eq_of_sorted`), so what is claimed to be the sorted list has only to be one. The
elements below a bound, for example, can be sorted on their own (`sortOn_split`), and lists whose
elements all have one key can be sorted as a whole (`sortOn_flatMap`).

Two more facts are about the parts of a list that have one key each: together they are the list
up to its order (`perm_flatMap_filter`), so lists with the same parts have the same elements
(`perm_of_filter_eq`).
-/

set_option autoImplicit false

namespace ClusterProvision

section
variable {α β : Type} [LE β] [DecidableLE β] [Std.IsLinearPreorder β] (key : α → β)

private theorem key_trans (a b c : α) (hab : decide (key a ≤ key b) = true)
    (hbc : decide (key b ≤ key c) = true) : decide (key a ≤ key c) = true :=
  decide_eq_true (Std.le_trans (of_decide_eq_true hab) (of_decide_eq_true hbc))

private theorem key_total (a b : α) :
    (decide (key a ≤ key b) || decide (key b ≤ key a)) = true := by
  rw [← Bool.decide_or, decide_eq_true_eq]
  exact Std.le_total

theorem sorted_mergeSort (xs : List α) :
    (xs.mergeSort fun a b => decide (key a ≤ key b)).Pairwise (key · ≤ key ·) :=
  (List.pairwise_mergeSort (key_trans key) (key_total key) xs).imp of_decide_eq_true

end

section
variable {α : Type} (key : α → Nat) (xs : List α)

theorem sortOn_perm : (sortOn key xs).Perm xs := by
  rw [sortOn_eq_mergeSort]
  exact List.mergeSort_perm xs _

theorem sorted_sortOn : (sortOn key xs).Pairwise (key · ≤ key ·) := by
  rw [sortOn_eq_mergeSort]
  exact sorted_mergeSort key xs

/-- Sorting is stable. -/
theorem filter_sortOn (k : Nat) : (sortOn key xs).filter (key · = k) = xs.filter (key · = k) := by
  have hperm := (sortOn_perm key xs).filter (key · = k)
  -- The elements of one key are in order already, so sorting keeps them as they stand.
  have hsame : (xs.filter (key · = k)).Pairwise fun a b => decide (key a ≤ key b) = true := by
    refine List.pairwise_of_forall_mem_list fun a ha b hb => ?_
    have hka := of_decide_eq_true (List.mem_filter.mp ha).2
    have hkb := of_decide_eq_true (List.mem_filter.mp hb).2
    exact decide_eq_true (by omega)
  have hsub : (xs.filter (key · = k)).Sublist (sortOn key xs) := by
    rw [sortOn_eq_mergeSort]
    exact List.sublist_mergeSort (key_trans key) (key_total key) hsame List.filter_sublist
  have hfilter := hsub.filter (key · = k)
  rw [List.filter_filter, List.filter_congr (fun a _ => Bool.and_self _)] at hfilter
  exact (hfilter.eq_of_length hperm.length_eq.symm).symm

/-- Sorting is stable for elements of any kind, if they all have one key. -/
theorem filter_sortOn_of_key {p : α → Bool} (k : Nat) (h : ∀ x, p x = true → key x = k) :
    (sortOn key xs).filter p = xs.filter p := by
  have hp : ∀ ys : List α, ys.filter p = (ys.filter (key · = k)).filter p := by
    intro ys
    rw [List.filter_filter]
    refine List.filter_congr fun x _ => ?_
    cases hx : p x with
    | false => rfl
    | true => simp [h x hx]
  rw [hp, filter_sortOn, ← hp]

end

section
variable {α : Type} {key : α → Nat} {xs ys : List α}

/-- The first element of one list in order is the first of the other, when both have the same
elements of each key. -/
private theorem head_eq_of_sorted {x y : α} (hx : (x :: xs).Pairwise (key · ≤ key ·))
    (hy : (y :: ys).Pairwise (key · ≤ key ·))
    (h : ∀ k, (x :: xs).filter (key · = k) = (y :: ys).filter (key · = k)) : x = y := by
  have hmemx : x ∈ (y :: ys).filter (key · = key x) := by
    rw [← h]
    simp
  have hmemy : y ∈ (x :: xs).filter (key · = key y) := by
    rw [h]
    simp
  -- Each of the two stands in the other's list, so neither has the greater key.
  have hyx : key y ≤ key x := by
    rcases List.mem_cons.mp (List.mem_filter.mp hmemx).1 with heq | hmem
    · exact Nat.le_of_eq (congrArg key heq.symm)
    · exact (List.pairwise_cons.mp hy).1 x hmem
  have hxy : key x ≤ key y := by
    rcases List.mem_cons.mp (List.mem_filter.mp hmemy).1 with heq | hmem
    · exact Nat.le_of_eq (congrArg key heq.symm)
    · exact (List.pairwise_cons.mp hx).1 y hmem
  have hkey : key x = key y := Nat.le_antisymm hxy hyx
  have hfirst := h (key x)
  rw [List.filter_cons_of_pos (by simp), List.filter_cons_of_pos (by simp [hkey])] at hfirst
  exact (List.cons.inj hfirst).1

/-- Two lists in order are equal when they have the same elements of each key, in one order. -/
theorem eq_of_sorted (hx : xs.Pairwise (key · ≤ key ·)) (hy : ys.Pairwise (key · ≤ key ·))
    (h : ∀ k, xs.filter (key · = k) = ys.filter (key · = k)) : xs = ys := by
  induction xs generalizing ys with
  | nil =>
    cases ys with
    | nil => rfl
    | cons y ys =>
      have hy := h (key y)
      simp at hy
  | cons x xs ih =>
    cases ys with
    | nil =>
      have hx := h (key x)
      simp at hx
    | cons y ys =>
      obtain rfl := head_eq_of_sorted hx hy h
      rw [ih hx.of_cons hy.of_cons]
      intro k
      have hk := h k
      by_cases hkey : key x = k
      · rw [List.filter_cons_of_pos (by simp [hkey]), List.filter_cons_of_pos (by simp [hkey])]
          at hk
        exact (List.cons.inj hk).2
      · rwa [List.filter_cons_of_neg (by simp [hkey]), List.filter_cons_of_neg (by simp [hkey])]
          at hk

/-- A list in order that has the elements of each key as they came is the sorted one. -/
theorem sortOn_eq_of_sorted (hsorted : ys.Pairwise (key · ≤ key ·))
    (h : ∀ k, ys.filter (key · = k) = xs.filter (key · = k)) : sortOn key xs = ys := by
  refine eq_of_sorted (sorted_sortOn key xs) hsorted fun k => ?_
  rw [filter_sortOn, h]

/-- Elements of one key stay when all elements of that key do. -/
theorem filter_key_filter {p : α → Bool} {k : Nat} (h : ∀ x, key x = k → p x = true) :
    (xs.filter p).filter (key · = k) = xs.filter (key · = k) := by
  rw [List.filter_filter]
  refine List.filter_congr fun x _ => ?_
  by_cases hx : key x = k
  · simp [h x hx]
  · simp [hx]

/-- Elements of one key go when all elements of that key do. -/
theorem filter_key_filter_eq_nil {p : α → Bool} {k : Nat} (h : ∀ x, key x = k → p x = false) :
    (xs.filter p).filter (key · = k) = [] := by
  rw [List.filter_filter, List.filter_eq_nil_iff]
  intro x _
  by_cases hx : key x = k
  · simp [h x hx]
  · simp [hx]

/-- The elements below a bound come first, and the two parts are sorted on their own. -/
theorem sortOn_split (bound : Nat) :
    sortOn key xs = sortOn key (xs.filter (key · < bound))
      ++ sortOn key (xs.filter fun x => ¬ key x < bound) := by
  refine sortOn_eq_of_sorted ?_ ?_
  · refine List.pairwise_append.mpr ⟨sorted_sortOn _ _, sorted_sortOn _ _, ?_⟩
    intro x hx y hy
    have hbelow := (List.mem_filter.mp ((sortOn_perm _ _).mem_iff.mp hx)).2
    have habove := (List.mem_filter.mp ((sortOn_perm _ _).mem_iff.mp hy)).2
    simp only [decide_eq_true_eq] at hbelow habove
    omega
  · -- All elements of one key are on the same side of the bound.
    intro k
    rw [List.filter_append, filter_sortOn, filter_sortOn]
    by_cases hk : k < bound
    · rw [filter_key_filter, filter_key_filter_eq_nil, List.append_nil]
      · rintro x rfl
        simpa using hk
      · rintro x rfl
        simpa using hk
    · rw [filter_key_filter_eq_nil, filter_key_filter, List.nil_append]
      · rintro x rfl
        simpa using hk
      · rintro x rfl
        simpa using hk

end

/-! ### Lists of lists -/

section
variable {α β : Type} {f : β → List α}

/-- When a list goes or stays as a whole, it can go before its elements are looked at. -/
theorem filter_flatMap_of_whole {p : α → Bool} {q : β → Bool} (h : ∀ x, ∀ y ∈ f x, p y = q x)
    (xs : List β) : (xs.flatMap f).filter p = (xs.filter q).flatMap f := by
  induction xs with
  | nil => rfl
  | cons x xs ih =>
    rw [List.flatMap_cons, List.filter_append, ih]
    cases hx : q x with
    | true =>
      have hall : (f x).filter p = f x :=
        List.filter_eq_self.mpr fun y hy => (h x y hy).trans hx
      rw [hall, List.filter_cons_of_pos hx, List.flatMap_cons]
    | false =>
      have hnone : (f x).filter p = [] := by
        rw [List.filter_eq_nil_iff]
        intro y hy
        rw [h x y hy, hx]
        exact Bool.false_ne_true
      rw [hnone, List.filter_cons_of_neg (by rw [hx]; exact Bool.false_ne_true), List.nil_append]

end

/-! ### Lists by key -/

/-- A list is, up to its order, its parts by key one after another. -/
theorem perm_flatMap_filter {α β : Type} [DecidableEq β] (key : α → β) {keys : List β}
    (hkeys : keys.Nodup) {xs : List α} (h : ∀ x ∈ xs, key x ∈ keys) :
    xs.Perm (keys.flatMap fun k => xs.filter (key · = k)) := by
  induction keys generalizing xs with
  | nil =>
    have hnil : xs = [] := List.eq_nil_iff_forall_not_mem.mpr fun x hx => nomatch h x hx
    rw [hnil]
    exact .nil
  | cons k keys ih =>
    rw [List.nodup_cons] at hkeys
    have hrest : (xs.filter fun x => !decide (key x = k)).Perm (keys.flatMap fun other =>
        (xs.filter fun x => !decide (key x = k)).filter (key · = other)) := by
      refine ih hkeys.2 fun x hx => ?_
      obtain ⟨hmem, hne⟩ := List.mem_filter.mp hx
      rcases List.mem_cons.mp (h x hmem) with hk | hmore
      · rw [hk, decide_eq_true rfl] at hne
        exact nomatch hne
      · exact hmore
    -- What has another key has that key among all elements, too.
    have hsame : (keys.flatMap fun other =>
          (xs.filter fun x => !decide (key x = k)).filter (key · = other))
        = keys.flatMap fun other => xs.filter (key · = other) := by
      refine List.flatMap_congr fun other hother => ?_
      rw [List.filter_filter]
      refine List.filter_congr fun x _ => ?_
      by_cases hx : key x = other
      · have hne : other ≠ k := by
          rintro rfl
          exact hkeys.1 hother
        simp [hx, hne]
      · simp [hx]
    rw [hsame] at hrest
    rw [List.flatMap_cons]
    exact (List.filter_append_perm (key · = k) xs).symm.trans (hrest.append_left _)

/-- Lists with the same elements of each key have the same elements. -/
theorem perm_of_filter_eq {α β : Type} [DecidableEq α] [DecidableEq β] (key : α → β)
    {xs ys : List α} (h : ∀ k, xs.filter (key · = k) = ys.filter (key · = k)) : xs.Perm ys := by
  rw [List.perm_iff_count]
  intro a
  have hcount : ∀ zs : List α, (zs.filter (key · = key a)).count a = zs.count a := by
    intro zs
    exact List.count_filter (decide_eq_true rfl)
  rw [← hcount xs, ← hcount ys, h]

end ClusterProvision
