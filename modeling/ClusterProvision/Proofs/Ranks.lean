import ClusterProvision.Proofs.Buckets

/-!
# `ClusterProvision.Proofs.Ranks`: ranks for every list of roles

Ranks can be kept in a table. The listed roles are entered one after another, each with its place,
and a role that has been entered before keeps the rank that it has. What the table says about a role
after that is the place where the role is first listed (`RoleOrder.lookup_foldl_enter`), and a role
that is not in the table shares the rank behind all others. So the table gives the rank of every
role (`RoleOrder.rank_eq_lookup`).

Two roles compare as they are first listed, however long the list is (`RoleOrder.rank_lt_rank_iff`).
Other roles have no part in that, even if they read the same (`RoleOrder.rank_lt_rank_without`).
`RoleOrder.ranked` puts this together.
-/

set_option autoImplicit false

namespace ClusterProvision

/-- Leaving out other elements does not change which of two elements comes first. -/
theorem idxOf_filter_lt_iff {α : Type} [DecidableEq α] {p : α → Bool} {x y : α} (hx : p x = true)
    (hy : p y = true) (xs : List α) :
    (xs.filter p).idxOf x < (xs.filter p).idxOf y ↔ xs.idxOf x < xs.idxOf y := by
  induction xs with
  | nil => rfl
  | cons z xs ih =>
    cases hz : p z with
    | true =>
      rw [List.filter_cons_of_pos hz]
      by_cases hzx : z = x
      · subst hzx
        by_cases hzy : z = y
        · simp [hzy]
        · simp [List.idxOf_cons_ne _ hzy]
      · by_cases hzy : z = y
        · simp [hzy]
        · simp [List.idxOf_cons_ne _ hzx, List.idxOf_cons_ne _ hzy, ih]
    | false =>
      -- What is left out is neither of the two, so it moves both by one place.
      have hzx : z ≠ x := by
        rintro rfl
        exact absurd (hx.symm.trans hz) (by decide)
      have hzy : z ≠ y := by
        rintro rfl
        exact absurd (hy.symm.trans hz) (by decide)
      rw [List.filter_cons_of_neg (by simp [hz]), ih, List.idxOf_cons_ne xs hzx,
        List.idxOf_cons_ne xs hzy, Nat.succ_lt_succ_iff]

namespace RoleOrder

/-! ### The table -/

/-- Enters a rank for a role, unless the role has one. -/
def enter (ranks : List (Role × Nat)) (entry : Role × Nat) : List (Role × Nat) :=
  if (ranks.lookup entry.1).isSome then ranks else entry :: ranks

/-- The ranks of listed roles, entered from the first one on. -/
def table (roles : List Role) : List (Role × Nat) := roles.zipIdx.foldl enter []

/-- What has been entered before is kept. -/
theorem lookup_enter (ranks : List (Role × Nat)) (role : Role) (place : Nat) (other : Role) :
    (enter ranks (role, place)).lookup other
      = (ranks.lookup other).or (if role = other then some place else none) := by
  unfold enter
  by_cases hrole : role = other
  · subst hrole
    cases hrank : ranks.lookup role <;> simp [hrank]
  · have hother : (other == role) = false := beq_false_of_ne (Ne.symm hrole)
    cases (ranks.lookup role).isSome <;> simp [List.lookup_cons, hother, hrole]

/-- When some roles are entered, each gets the place where it comes first, unless it has a rank. -/
theorem lookup_foldl_enter (ranks : List (Role × Nat)) (roles : List Role) (start : Nat)
    (other : Role) :
    ((roles.zipIdx start).foldl enter ranks).lookup other
      = (ranks.lookup other).or ((roles.idxOf? other).map (· + start)) := by
  -- By induction on the roles, for every table to begin with and every place of the first of them.
  induction roles generalizing ranks start with
  | nil => simp
  | cons role roles ih =>
    rw [List.zipIdx_cons, List.foldl_cons, ih, lookup_enter, List.idxOf?_cons, Option.or_assoc]
    congr 1
    by_cases hrole : role = other
    · simp [hrole]
    · simp [hrole, Function.comp_def, Nat.add_assoc, Nat.add_comm start]

theorem rank_eq_lookup (order : RoleOrder) (role : Role) :
    order.rank role
      = ((table order.roles).lookup role).getD (max unlistedRank order.roles.length) := by
  rw [table, lookup_foldl_enter, rank]
  cases order.roles.idxOf? role <;> rfl

/-! ### Comparing -/

theorem rank_lt_rank_iff (order : RoleOrder) (role other : Role) :
    order.rank role < order.rank other
      ↔ role ∈ order.roles
        ∧ (other ∉ order.roles ∨ order.roles.idxOf role < order.roles.idxOf other) := by
  by_cases hother : other ∈ order.roles
  · by_cases hrole : role ∈ order.roles
    · simp [rank_of_mem hrole, rank_of_mem hother, hrole, hother]
    · -- A role that is not listed ranks behind the other one.
      have hlt := (order.rank_lt_iff other).mpr hother
      rw [← rank_of_not_mem hrole] at hlt
      simp [hrole, Nat.le_of_lt hlt]
  · rw [rank_of_not_mem hother, rank_lt_iff]
    simp [hother]

/-- The order without a role. -/
def without (order : RoleOrder) (role : Role) : RoleOrder := ⟨order.roles.filter (· ≠ role)⟩

/-- How two roles compare does not depend on where a third one is listed. -/
theorem rank_lt_rank_without (order : RoleOrder) {third role other : Role} (hrole : role ≠ third)
    (hother : other ≠ third) :
    (order.without third).rank role < (order.without third).rank other
      ↔ order.rank role < order.rank other := by
  rw [rank_lt_rank_iff, rank_lt_rank_iff]
  unfold without
  rw [idxOf_filter_lt_iff (by simpa using hrole) (by simpa using hother)]
  simp [hrole, hother]

/-- What the ranks of an order are. -/
structure Ranked (order : RoleOrder) : Prop where
  /-- The table has the ranks of the listed roles. All others share the rank 10000, or the length of
  the list if that is more. -/
  tabled : ∀ role, order.rank role
    = ((table order.roles).lookup role).getD (max 10000 order.roles.length)
  /-- A role ranks before another one if it is listed, and the other one is not or comes later. -/
  lt_iff : ∀ role other, order.rank role < order.rank other
    ↔ role ∈ order.roles
      ∧ (other ∉ order.roles ∨ order.roles.idxOf role < order.roles.idxOf other)
  /-- A listed role ranks at the place where it is first listed. -/
  listed : ∀ before role after, order.roles = before ++ role :: after → role ∉ before →
    order.rank role = before.length
  /-- Roles that are not listed, known or not, share one rank. -/
  shared : ∀ role other, role ∉ order.roles → other ∉ order.roles →
    order.rank role = order.rank other
  /-- This rank is greater than every other one. -/
  behind : ∀ role other, role ∈ order.roles → other ∉ order.roles →
    order.rank role < order.rank other
  /-- No other role has the rank of a listed one. -/
  injective : ∀ role other, role ∈ order.roles → order.rank role = order.rank other → role = other
  /-- Roles are compared as values: how two roles compare does not depend on whether a third one is
  listed, and where. An unknown role that reads like a known one is such a third role. -/
  byValue : ∀ third role other, role ≠ third → other ≠ third →
    ((order.without third).rank role < (order.without third).rank other
      ↔ order.rank role < order.rank other)

/-- Every list of roles ranks all roles, however long it is and whatever it repeats. -/
theorem ranked (order : RoleOrder) : Ranked order where
  tabled := order.rank_eq_lookup
  lt_iff := order.rank_lt_rank_iff
  listed := by
    intro before role after hsplit hfirst
    have hmem : role ∈ order.roles := by
      rw [hsplit]
      simp
    rw [rank_of_mem hmem, hsplit, List.idxOf_append, if_neg hfirst, List.idxOf_cons_self,
      Nat.zero_add]
  shared := by
    intro role other hrole hother
    rw [rank_of_not_mem hrole, rank_of_not_mem hother]
  behind := by
    intro role other hrole hother
    rw [rank_of_not_mem hother]
    exact (order.rank_lt_iff role).mpr hrole
  injective := by
    intro role other hrole hrank
    exact ((rank_eq_iff hrole other).mp hrank.symm).symm
  byValue := by
    intro third role other hrole hother
    exact order.rank_lt_rank_without hrole hother

example : (⟨[.unknown "worker", .controlPlane, .unknown "worker"]⟩ : RoleOrder).rank .worker
    = 10000 := by
  decide

end RoleOrder
end ClusterProvision
