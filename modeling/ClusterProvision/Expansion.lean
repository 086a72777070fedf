import ClusterProvision.Cluster.Basic
import ClusterProvision.Cluster.Fault

/-!
# `ClusterProvision.Expansion`: one entry per node

An entry with count `r` becomes `r` entries without a count, in its place. A negative
count is a fault, reported with the index of the entry.
-/

set_option autoImplicit false

namespace ClusterProvision

/-- Replaces each entry by its nodes, counting entries from an index. -/
def expandFrom : Nat → List NodeEntry → Except ClusterFault (List NodeEntry)
  | _, [] => .ok []
  | index, entry :: rest =>
    if entry.count < 0 then
      .error (.negativeReplicas index entry.role.wire entry.count)
    else do
      let others ← expandFrom (index + 1) rest
      return List.replicate entry.count.toInt.toNat entry.single ++ others

/-- Replaces each entry by its nodes. -/
def expand (entries : List NodeEntry) : Except ClusterFault (List NodeEntry) :=
  expandFrom 0 entries

end ClusterProvision
