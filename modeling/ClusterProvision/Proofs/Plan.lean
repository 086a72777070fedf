import ClusterProvision.NodeSpec
import ClusterProvision.Proofs.Naming
import ClusterProvision.Proofs.Sorting
import Mathlib.Algebra.GroupWithZero.Nat

/-!
# `ClusterProvision.Proofs.Plan`: the plan of a cluster

A cluster without negative counts has a plan (`Cluster.plan_of_nonneg`): its nodes, sorted by
role, with names from a new namer. Sorting and naming change nothing else about the nodes.
`Cluster.names_plan` is what the names are: all different, each a name of its role, with a
number no greater than the place of the node.
-/

set_option autoImplicit false

namespace ClusterProvision

/-! ### The nodes of a cluster -/

/-- The nodes that an entry stands for, not yet named. -/
def NodeEntry.unnamed (entry : NodeEntry) : List NodeSpec :=
  List.replicate entry.count.toInt.toNat (NodeSpec.ofEntry entry)

/-- The nodes of a cluster in the order of its entries, not yet named. -/
def Cluster.unnamed (cluster : Cluster) : List NodeSpec := cluster.nodes.flatMap NodeEntry.unnamed

theorem expandFrom_of_nonneg (index : Nat) {entries : List NodeEntry}
    (h : ∀ entry ∈ entries, 0 ≤ entry.count) :
    expandFrom index entries
      = .ok (entries.flatMap fun entry =>
          List.replicate entry.count.toInt.toNat entry.single) := by
  induction entries generalizing index with
  | nil => rfl
  | cons entry entries ih =>
    have hentry : ¬ entry.count < 0 := Int32.not_lt.mpr (h entry List.mem_cons_self)
    have hrest := ih (index + 1) fun other hother => h other (List.mem_cons_of_mem _ hother)
    rw [expandFrom, if_neg hentry, hrest]
    rfl

namespace NodeSpec

theorem sort_perm (order : RoleOrder) (specs : List NodeSpec) : (sort order specs).Perm specs :=
  sortOn_perm _ specs

theorem nameAll_cons (namer : Namer) (spec : NodeSpec) (specs : List NodeSpec) :
    nameAll namer (spec :: specs)
      = { spec with name := (namer.name spec.role).1 }
          :: nameAll (namer.name spec.role).2 specs := rfl

/-- Naming changes nothing but the names. -/
theorem map_nameAll {α : Type} (f : NodeSpec → α) (h : ∀ spec name, f { spec with name } = f spec)
    (namer : Namer) (specs : List NodeSpec) : (nameAll namer specs).map f = specs.map f := by
  induction specs generalizing namer with
  | nil => rfl
  | cons spec specs ih => rw [nameAll_cons, List.map_cons, List.map_cons, ih, h]

/-- The names are those that the namer gives for the roles. -/
theorem names_nameAll (namer : Namer) (specs : List NodeSpec) :
    (nameAll namer specs).map NodeSpec.name = (namer.nameAll (specs.map NodeSpec.role)).1 := by
  induction specs generalizing namer with
  | nil => rfl
  | cons spec specs ih => rw [nameAll_cons, List.map_cons, ih, List.map_cons, Namer.nameAll_cons]

/-- A named node has the role of one of the nodes that were named. -/
theorem exists_role_of_mem_nameAll {namer : Namer} {specs : List NodeSpec} {spec : NodeSpec}
    (h : spec ∈ nameAll namer specs) : ∃ unnamed ∈ specs, unnamed.role = spec.role := by
  have hrole : spec.role ∈ (nameAll namer specs).map NodeSpec.role := List.mem_map_of_mem h
  rw [map_nameAll NodeSpec.role fun _ _ => rfl] at hrole
  exact List.mem_map.mp hrole

end NodeSpec

namespace Cluster

/-- A node of the plan has the role of one of the cluster's nodes. -/
theorem exists_role_of_mem_plan {cluster : Cluster} {name : String} {order : RoleOrder}
    {spec : NodeSpec}
    (h : spec ∈ NodeSpec.nameAll (Namer.new name) (NodeSpec.sort order cluster.unnamed)) :
    ∃ unnamed ∈ cluster.unnamed, unnamed.role = spec.role := by
  obtain ⟨unnamed, hunnamed, hrole⟩ := NodeSpec.exists_role_of_mem_nameAll h
  exact ⟨unnamed, (NodeSpec.sort_perm order cluster.unnamed).mem_iff.mp hunnamed, hrole⟩

/-- A cluster without negative counts has a plan. -/
theorem plan_of_nonneg {cluster : Cluster} (h : ∀ entry ∈ cluster.nodes, 0 ≤ entry.count)
    (name : String) (order : RoleOrder) :
    cluster.plan name order
      = .ok (NodeSpec.nameAll (Namer.new name) (NodeSpec.sort order cluster.unnamed)) := by
  have hunnamed : (cluster.nodes.flatMap fun entry =>
      List.replicate entry.count.toInt.toNat entry.single).map NodeSpec.ofEntry
        = cluster.unnamed := by
    rw [List.map_flatMap, unnamed]
    congr 1
    funext entry
    exact List.map_replicate
  rw [plan, expand, expandFrom_of_nonneg 0 h, ← hunnamed]
  rfl

theorem length_unnamed (cluster : Cluster) :
    cluster.unnamed.length = (cluster.nodes.map (·.count.toInt.toNat)).sum := by
  rw [unnamed, List.length_flatMap]
  congr 1
  refine List.map_congr_left fun entry _ => ?_
  exact List.length_replicate

end Cluster

/-! ### The names -/

/-- What the names of a cluster's nodes are: one for every node, all different, each a name of
the node's role, with a number no greater than the place of the node. -/
structure Cluster.WellNamed (cluster : Cluster) (name : String) (specs : List NodeSpec) :
    Prop where
  length : specs.length = (cluster.nodes.map (·.count.toInt.toNat)).sum
  distinct : (specs.map NodeSpec.name).Nodup
  numbered : ∀ (place : Nat) (spec : NodeSpec), specs[place]? = some spec →
    ∃ k, 1 ≤ k ∧ k ≤ place + 1 ∧ spec.name = candidateName name spec.role.wire k

/-- What holds of a namer after a number of calls. No count is greater than that number. A
further call tries one number after another, from the role's count on, until it comes to one
whose name is free; it gives that name and keeps the number. -/
structure Namer.Counted (namer : Namer) (calls : Nat) : Prop where
  bound : ∀ role, namer.count role ≤ calls
  search : ∀ role, ∃ k, namer.count role < k ∧ k ≤ calls + 1
    ∧ candidateName namer.cluster role.wire k ∉ namer.issued
    ∧ (∀ j, namer.count role < j → j < k →
        candidateName namer.cluster role.wire j ∈ namer.issued)
    ∧ (namer.name role).1 = candidateName namer.cluster role.wire k
    ∧ (namer.name role).2.count role = k

theorem Namer.Sound.counted {namer : Namer} {calls : Nat} (h : Sound namer calls) :
    namer.Counted calls where
  bound := h.count_le
  search := by
    intro role
    obtain ⟨k, hlt, hname, hcount, hfree, htaken⟩ := namer.name_cases role
    have hbound := (h.name role).count_le role
    rw [hcount] at hbound
    exact ⟨k, hlt, hbound, hfree, htaken, hname, hcount⟩

namespace Cluster

theorem wellNamed (cluster : Cluster) (name : String) (order : RoleOrder) :
    cluster.WellNamed name
      (NodeSpec.nameAll (Namer.new name) (NodeSpec.sort order cluster.unnamed)) := by
  have hnames := NodeSpec.names_nameAll (Namer.new name) (NodeSpec.sort order cluster.unnamed)
  have hroles := NodeSpec.map_nameAll NodeSpec.role (fun _ _ => rfl) (Namer.new name)
    (NodeSpec.sort order cluster.unnamed)
  -- Neither sorting nor naming adds or drops a node, and the names are those of the namer.
  refine ⟨?_, ?_, ?_⟩
  · have hlength := congrArg List.length hroles
    rw [List.length_map, List.length_map] at hlength
    rw [hlength, (NodeSpec.sort_perm order cluster.unnamed).length_eq, length_unnamed]
  · rw [hnames]
    exact (Namer.Sound.new name).nodup_nameAll _
  · intro place spec hspec
    have hrole : ((NodeSpec.sort order cluster.unnamed).map NodeSpec.role)[place]?
        = some spec.role := by
      rw [← hroles, List.getElem?_map, hspec, Option.map_some]
    obtain ⟨k, hpos, hle, hname⟩ := (Namer.Sound.new name).exists_number hrole
    rw [← hnames, List.getElem?_map, hspec, Option.map_some] at hname
    exact ⟨k, hpos, by omega, Option.some.inj hname⟩

/-- A cluster without negative counts has a plan, under every name and every order of roles,
and the plan gives every node a name of its own. No namer counts further than it is called. -/
theorem names_plan (cluster : Cluster) (name : String) (order : RoleOrder)
    (hcounts : ∀ entry ∈ cluster.nodes, 0 ≤ entry.count) :
    (∃ specs, cluster.plan name order = .ok specs ∧ cluster.WellNamed name specs)
      ∧ ∀ calls : List Role, ((Namer.new name).nameAll calls).2.Counted calls.length := by
  refine ⟨⟨_, plan_of_nonneg hcounts name order, cluster.wellNamed name order⟩, ?_⟩
  intro calls
  have hsound := (Namer.Sound.new name).nameAll calls
  rw [Nat.zero_add] at hsound
  exact hsound.counted

/-- Roles that lay claim to each other's names. -/
def clashing : Cluster :=
  ⟨[{ role := .worker, image := "a", replicas := some 2 },
    { role := .unknown "worker", image := "b" },
    { role := .unknown "worker2", image := "c", replicas := some 0 },
    { role := .unknown "worker2", image := "d" },
    { role := .unknown "worker1", image := "e", replicas := some 2 },
    { role := .unknown "worker", image := "f", replicas := some 12 }]⟩

theorem names_plan_clashing :
    (∀ entry ∈ clashing.nodes, 0 ≤ entry.count)
      ∧ (∃ specs, clashing.plan "kind" .default = .ok specs ∧ clashing.WellNamed "kind" specs)
      ∧ ∀ calls : List Role, ((Namer.new "kind").nameAll calls).2.Counted calls.length := by
  have hcounts : ∀ entry ∈ clashing.nodes, 0 ≤ entry.count := by decide
  exact ⟨hcounts, names_plan clashing "kind" .default hcounts⟩

end Cluster
end ClusterProvision
