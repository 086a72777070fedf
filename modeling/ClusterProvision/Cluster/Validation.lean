import ClusterProvision.Cluster.Basic
import ClusterProvision.Cluster.Fault
import ClusterProvision.Text.Blank

/-!
# `ClusterProvision.Cluster.Validation`: checking a cluster's description

Every entry needs a replica count that is not negative, and an image that is more than
white space. The first entry at fault is reported, and of its two faults the replica
count. Unknown roles are accepted here; no provider creates a node for them.
-/

set_option autoImplicit false

namespace ClusterProvision

/-- What is wrong with an entry at an index. -/
def NodeEntry.fault? (entry : NodeEntry) (index : Nat) : Option ClusterFault :=
  if entry.count < 0 then some (.negativeReplicas index entry.role.wire entry.count)
  else if Text.allBlank entry.image then some (.missingImage index)
  else none

/-- What is wrong with the first entry at fault, counting from an index. -/
def firstFault? : Nat → List NodeEntry → Option ClusterFault
  | _, [] => none
  | index, entry :: rest => (entry.fault? index).or (firstFault? (index + 1) rest)

/-- Checks every entry. -/
def Cluster.validate (cluster : Cluster) : Except ClusterFault Unit :=
  match firstFault? 0 cluster.nodes with
  | some fault => .error fault
  | none => .ok ()

end ClusterProvision
