import ClusterProvision.Role

/-!
# `ClusterProvision.RoleOrder`: the order in which roles come

An order is a list of roles. A listed role ranks at the place where it is first listed;
all other roles share one rank behind every listed one. Roles are compared as values, so
an unknown role that reads like a known one ranks on its own.

`sortOn_eq_mergeSort` says that sorting is stable sorting by rank.
-/

set_option autoImplicit false

namespace ClusterProvision

/-- The elements by rising key; elements with equal keys keep their order. The key of each
element is computed once. -/
def sortOn {α : Type} (key : α → Nat) (xs : List α) : List α :=
  ((xs.map fun x => (key x, x)).mergeSort fun a b => decide (a.1 ≤ b.1)).map Prod.snd

theorem sortOn_eq_mergeSort {α : Type} (key : α → Nat) (xs : List α) :
    sortOn key xs = xs.mergeSort fun a b => decide (key a ≤ key b) := by
  have h : (xs.mergeSort fun a b => decide (key a ≤ key b)).map (fun x => (key x, x))
      = (xs.map fun x => (key x, x)).mergeSort fun a b => decide (a.1 ≤ b.1) :=
    List.map_mergeSort fun _ _ _ _ => rfl
  rw [sortOn, ← h, List.map_map]
  exact List.map_id'' (fun _ => rfl) _

/-- An order of roles: the listed roles, first to last. -/
structure RoleOrder where
  roles : List Role
  deriving DecidableEq, Repr, Inhabited

namespace RoleOrder

/-- The order of the four known roles. -/
def default : RoleOrder := ⟨Role.known⟩

/-- The least rank of the roles that are not listed. -/
def unlistedRank : Nat := 10000

/-- The rank of a role. -/
def rank (order : RoleOrder) (role : Role) : Nat :=
  match order.roles.idxOf? role with
  | some place => place
  | none => max unlistedRank order.roles.length

/-- Sorts things by the rank of their role. -/
def sortBy {α : Type} (order : RoleOrder) (role : α → Role) (xs : List α) : List α :=
  sortOn (fun x => order.rank (role x)) xs

end RoleOrder
end ClusterProvision
