import ClusterProvision.Cluster.Fault
import ClusterProvision.Schema.Decode
import ClusterProvision.Toml.Reader

/-!
# `ClusterProvision.Cluster.Load`: a cluster from a document
-/

set_option autoImplicit false

namespace ClusterProvision

/-- The cluster that a document describes, with the default entry if it has none. -/
def Cluster.ofDocument (text : String) : Except ClusterFault Cluster :=
  match Toml.read? text with
  | none => .error .malformed
  | some entries =>
    match Schema.decodeCluster entries with
    | .error cause => .error (.mismatch cause)
    | .ok cluster => .ok cluster.withDefaults

end ClusterProvision
