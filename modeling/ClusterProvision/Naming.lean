import ClusterProvision.Role

/-!
# `ClusterProvision.Naming`: names for nodes

The nodes of a role are called `<cluster>-<role>`, `<cluster>-<role>2`,
`<cluster>-<role>3` and so on. Two roles can lay claim to one name: the second `worker`
and the first `worker2`. A namer never gives a name twice: it counts on until it finds
one that is free.
-/

set_option autoImplicit false

namespace ClusterProvision

/-- The `k`-th name of a role; the first has no number. -/
def candidateName (cluster role : String) (k : Nat) : String :=
  if k = 1 then cluster ++ "-" ++ role else cluster ++ "-" ++ role ++ k.repr

/-- What a namer knows: the numbers it has given, the latest first, and the names. -/
structure Namer where
  cluster : String
  counts : List (Role × Nat)
  issued : List String

namespace Namer

/-- A namer that has given no name. -/
def new (cluster : String) : Namer := ⟨cluster, [], []⟩

/-- How far a namer has counted for a role. -/
def count (namer : Namer) (role : Role) : Nat := (namer.counts.lookup role).getD 0

/-- The first of `k`, `k + 1`, …, `k + fuel` whose name is free, if one of the first `fuel`
is, and else the last. -/
def firstFree (namer : Namer) (role : String) : Nat → Nat → Nat
  | 0, k => k
  | fuel + 1, k =>
    if namer.issued.contains (candidateName namer.cluster role k) then
      namer.firstFree role fuel (k + 1)
    else k

/-- Names the next node of a role. The names of a role are all different, so when as many
are taken as have been given at all, the next one is free. -/
def name (namer : Namer) (role : Role) : String × Namer :=
  let k := namer.firstFree role.wire namer.issued.length (namer.count role + 1)
  let name := candidateName namer.cluster role.wire k
  (name, { namer with counts := (role, k) :: namer.counts, issued := name :: namer.issued })

/-- Names a node for each of the roles, in turn. -/
def nameAll (namer : Namer) : List Role → List String × Namer
  | [] => ([], namer)
  | role :: rest =>
    let (name, namer) := namer.name role
    let (names, namer) := namer.nameAll rest
    (name :: names, namer)

end Namer
end ClusterProvision
