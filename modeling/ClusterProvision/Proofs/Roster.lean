import ClusterProvision.Proofs.Numbering

/-!
# `ClusterProvision.Proofs.Roster`: the nodes of known roles

The four known roles are separate, so a known role with `n` nodes has its first `n` names
(`Namer.Sequential.filter_nameAll`). When the roles of all nodes are known, their names and roles
therefore follow from how many nodes each role has. They are the cluster's `roster`, whatever the
order of the roles (`Cluster.nodes_plan_perm`).
-/

set_option autoImplicit false

namespace ClusterProvision

/-- The name and the role of a node to create. -/
def NodeSpec.node (spec : NodeSpec) : String × Role := (spec.name, spec.role)

/-- The names and roles of numbered nodes of one role. -/
theorem NodeSpec.map_node_numbered (cluster : String) {role : Role} {specs : List NodeSpec}
    (h : ∀ spec ∈ specs, spec.role = role) (k : Nat) :
    (numbered cluster k specs).map node
      = (List.range' k specs.length).map fun k => (candidateName cluster role.wire k, role) := by
  induction specs generalizing k with
  | nil => rfl
  | cons spec specs ih =>
    have hspec : spec.role = role := h spec List.mem_cons_self
    have hrest := ih (fun other hother => h other (List.mem_cons_of_mem _ hother)) (k + 1)
    simp only [numbered, List.map_cons, hrest, List.length_cons, List.range'_succ, node, hspec]

/-! ### The roster -/

/-- The names and roles of a cluster's nodes, role by role, from the number of nodes of each
known role. -/
def roster (cluster : String) (headcount : Role → Nat) : List (String × Role) :=
  Role.known.flatMap fun role =>
    (List.range' 1 (headcount role)).map fun k => (candidateName cluster role.wire k, role)

namespace Cluster

/-- The number of nodes of a role. -/
def headcount (cluster : Cluster) (role : Role) : Nat :=
  ((cluster.nodes.filter (·.role = role)).map (·.count.toInt.toNat)).sum

theorem count_unnamed (cluster : Cluster) (role : Role) :
    (cluster.unnamed.map NodeSpec.role).count role = cluster.headcount role := by
  obtain ⟨nodes⟩ := cluster
  induction nodes with
  | nil => rfl
  | cons entry entries ih =>
    have hunnamed : unnamed ⟨entry :: entries⟩ = entry.unnamed ++ unnamed ⟨entries⟩ := rfl
    have hentry : entry.unnamed.map NodeSpec.role
        = List.replicate entry.count.toInt.toNat entry.role := List.map_replicate
    rw [hunnamed, List.map_append, List.count_append, ih, hentry, List.count_replicate, headcount,
      headcount, List.filter_cons]
    by_cases hrole : entry.role = role
    · simp [hrole]
    · simp [hrole]

/-- When only entries without nodes have unknown roles, the roles of all nodes are known. -/
theorem isKnown_of_mem_unnamed {cluster : Cluster}
    (h : ∀ entry ∈ cluster.nodes, 1 ≤ entry.count → entry.role.isKnown = true) :
    ∀ spec ∈ cluster.unnamed, spec.role.isKnown = true := by
  intro spec hspec
  obtain ⟨entry, hentry, hmem⟩ := List.mem_flatMap.mp hspec
  obtain ⟨hcount, rfl⟩ := List.mem_replicate.mp hmem
  refine h entry hentry ?_
  rw [Int32.le_iff_toInt_le]
  show (1 : Int) ≤ entry.count.toInt
  omega

/-- When the roles of all nodes are known, the names and roles in a plan are those of the
roster. -/
theorem nodes_plan_perm {cluster : Cluster}
    (h : ∀ entry ∈ cluster.nodes, 1 ≤ entry.count → entry.role.isKnown = true) (name : String)
    (order : RoleOrder) :
    ((NodeSpec.nameAll (Namer.new name) (NodeSpec.sort order cluster.unnamed)).map
      NodeSpec.node).Perm (roster name cluster.headcount) := by
  have hperm := NodeSpec.sort_perm order cluster.unnamed
  have hknown : ∀ spec ∈ NodeSpec.sort order cluster.unnamed, spec.role ∈ Role.known := by
    intro spec hspec
    exact Role.mem_known.mpr (isKnown_of_mem_unnamed h spec (hperm.mem_iff.mp hspec))
  have hroles : ∀ node ∈ (NodeSpec.nameAll (Namer.new name)
      (NodeSpec.sort order cluster.unnamed)).map NodeSpec.node, node.2 ∈ Role.known := by
    intro node hnode
    obtain ⟨spec, hspec, rfl⟩ := List.mem_map.mp hnode
    obtain ⟨unnamed, hunnamed, hrole⟩ := NodeSpec.exists_role_of_mem_nameAll hspec
    have hmem := hknown unnamed hunnamed
    rw [hrole] at hmem
    exact hmem
  -- Role by role, the plan has the roster's names in the roster's order.
  have hsorted := perm_flatMap_filter Prod.snd (show Role.known.Nodup by decide) hroles
  refine hsorted.trans (.of_eq ?_)
  rw [roster]
  refine List.flatMap_congr fun role _ => ?_
  have hcount : ((NodeSpec.sort order cluster.unnamed).filter (·.role = role)).length
      = cluster.headcount role := by
    rw [← count_unnamed, ← (hperm.map NodeSpec.role).count_eq, List.count_eq_countP,
      List.countP_map, List.countP_eq_length_filter]
    congr 1
  have hsame : ∀ spec ∈ (NodeSpec.sort order cluster.unnamed).filter (·.role = role),
      spec.role = role := by
    intro spec hspec
    exact of_decide_eq_true (List.mem_filter.mp hspec).2
  rw [List.filter_map, show ((fun node : String × Role => decide (node.2 = role)) ∘ NodeSpec.node)
      = fun spec => decide (spec.role = role) from rfl,
    (Namer.Sequential.new name).filter_nameAll Role.separate_known hknown role,
    NodeSpec.map_node_numbered _ hsame, hcount]
  rfl

end Cluster
end ClusterProvision
