import ClusterProvision.Mount
import ClusterProvision.Role

/-!
# `ClusterProvision.Cluster.Basic`: the description of a cluster

A cluster is a list of entries. An entry stands for a number of equal nodes: as many
as its replica count, or one if it has none.
-/

set_option autoImplicit false

namespace ClusterProvision

/-- A number of equal nodes. -/
structure NodeEntry where
  role : Role
  image : String
  mounts : List Mount := []
  replicas : Option Int32 := none
  deriving DecidableEq, Repr, Inhabited

namespace NodeEntry

/-- The number of nodes that an entry asks for; unset means one. -/
def count (entry : NodeEntry) : Int32 := entry.replicas.getD 1

/-- An entry for one of its nodes. -/
def single (entry : NodeEntry) : NodeEntry := { entry with replicas := none }

end NodeEntry

/-- The description of a cluster: its entries, in the order in which they are declared. -/
structure Cluster where
  nodes : List NodeEntry
  deriving DecidableEq, Repr, Inhabited

namespace Cluster

/-- The image of the node that a cluster without entries gets. -/
def defaultImage : String := "kindest/node:latest"

/-- A cluster without entries gets one control-plane node. -/
def withDefaults (cluster : Cluster) : Cluster :=
  if cluster.nodes.isEmpty then ⟨[{ role := .controlPlane, image := defaultImage }]⟩ else cluster

end Cluster
end ClusterProvision
