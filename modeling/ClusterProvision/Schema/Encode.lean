import ClusterProvision.Cluster.Basic
import ClusterProvision.Toml.Value

/-!
# `ClusterProvision.Schema.Encode`: from a cluster to a document's values

Every field is written out, except an empty list of mounts and an unset replica count.
-/

set_option autoImplicit false

namespace ClusterProvision.Schema

open Toml (Value)

/-- A mount as a table. -/
def encodeMount (mount : Mount) : Value :=
  .table [
    ("container_path", .string mount.containerPath),
    ("host_path", .string mount.hostPath),
    ("read_only", .boolean mount.readOnly),
    ("selinux_relabel", .boolean mount.selinuxRelabel),
    ("propagation", .string mount.propagation.wire)]

/-- A node entry as a table. -/
def encodeNode (entry : NodeEntry) : Value :=
  let mounts := if entry.mounts.isEmpty then []
    else [("extra_mounts", Value.array (entry.mounts.map encodeMount))]
  let replicas := match entry.replicas with
    | some n => [("replicas", Value.integer n.toInt)]
    | none => []
  .table ([("role", .string entry.role.wire), ("image", .string entry.image)] ++ mounts ++ replicas)

/-- A cluster as the entries of a document. -/
def encodeCluster (cluster : Cluster) : List (String × Value) :=
  [("nodes", .array (cluster.nodes.map encodeNode))]

end ClusterProvision.Schema
