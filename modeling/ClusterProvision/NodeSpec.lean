import ClusterProvision.Expansion
import ClusterProvision.Naming
import ClusterProvision.RoleOrder

/-!
# `ClusterProvision.NodeSpec`: the nodes of a cluster, ordered and named

A cluster's entries are expanded to one per node, sorted by the rank of their role, and
named from first to last. Names come last so that their numbers follow the order in
which the nodes are listed.
-/

set_option autoImplicit false

namespace ClusterProvision

/-- One node to create. -/
structure NodeSpec where
  name : String := ""
  role : Role
  image : String := ""
  mounts : List Mount := []
  deriving DecidableEq, Repr, Inhabited

namespace NodeSpec

/-- A node of an entry, not yet named. -/
def ofEntry (entry : NodeEntry) : NodeSpec :=
  { role := entry.role, image := entry.image, mounts := entry.mounts }

/-- Sorts nodes by the rank of their role. -/
def sort (order : RoleOrder) (specs : List NodeSpec) : List NodeSpec :=
  order.sortBy NodeSpec.role specs

/-- Names the nodes from first to last. -/
def nameAll (namer : Namer) : List NodeSpec → List NodeSpec
  | [] => []
  | spec :: rest =>
    let (name, namer) := namer.name spec.role
    { spec with name } :: nameAll namer rest

end NodeSpec

/-- The nodes of a cluster with the given name. -/
def Cluster.plan (cluster : Cluster) (name : String) (order : RoleOrder) :
    Except ClusterFault (List NodeSpec) := do
  let entries ← expand cluster.nodes
  return NodeSpec.nameAll (Namer.new name) (NodeSpec.sort order (entries.map NodeSpec.ofEntry))

end ClusterProvision
