import ClusterProvision.Proofs.Numbering

/-!
# `ClusterProvision.Proofs.OrderedPlan`: what the order of the roles does to a plan

The order of the roles decides in which order the nodes come. It also decides which role is
named first, and that matters only between roles that lay claim to each other's names:

* `Cluster.plan_rearranged`: when the roles are separate, two orders give the same nodes with the
  same names, and those of each role in the same order.
* `Cluster.plan_knownFirst`: when the order lists the known roles and no other, nodes of unknown
  roles come last. They take no names away from the others, whatever their roles are called.

For the first, each role's nodes are looked at alone (`Cluster.filter_plan`). For the second, the
plan is cut in two where the unknown roles begin (`NodeSpec.sort_eq_append`).
-/

set_option autoImplicit false

namespace ClusterProvision

/-! ### Ranks -/

namespace RoleOrder

theorem rank_lt_length {order : RoleOrder} {role : Role} (h : role ∈ order.roles) :
    order.rank role < order.roles.length := by
  unfold rank
  cases hplace : order.roles.idxOf? role with
  | none => exact absurd h (List.idxOf?_eq_none_iff.mp hplace)
  | some place =>
    obtain ⟨hlt, -⟩ := List.findIdx?_eq_some_iff_getElem.mp hplace
    exact hlt

theorem rank_of_not_mem {order : RoleOrder} {role : Role} (h : role ∉ order.roles) :
    order.rank role = max unlistedRank order.roles.length := by
  unfold rank
  rw [List.idxOf?_eq_none_iff.mpr h]

/-- The roles that are listed rank below those that are not. -/
theorem rank_lt_iff (order : RoleOrder) (role : Role) :
    order.rank role < max unlistedRank order.roles.length ↔ role ∈ order.roles := by
  constructor
  · intro hlt
    by_contra hrole
    rw [rank_of_not_mem hrole] at hlt
    exact absurd hlt (Nat.lt_irrefl _)
  · intro hrole
    exact Nat.lt_of_lt_of_le (rank_lt_length hrole) (Nat.le_max_right _ _)

/-- The order lists the known roles, each at least once, and no other. -/
def ListsKnown (order : RoleOrder) : Prop := ∀ role, role ∈ order.roles ↔ role.isKnown = true

theorem listsKnown_default : default.ListsKnown := fun _ => Role.mem_known

end RoleOrder

/-! ### Two orders -/

/-- Two plans with the same nodes: those of each role come in the same order, and a name stands
for the same node in both. -/
structure NodeSpec.Rearranged (specs others : List NodeSpec) : Prop where
  ofRole : ∀ role, specs.filter (·.role = role) = others.filter (·.role = role)
  perm : specs.Perm others
  named : ∀ spec ∈ specs, ∀ other ∈ others, spec.name = other.name → spec = other

theorem NodeSpec.filter_sort (order : RoleOrder) (specs : List NodeSpec) (role : Role) :
    (sort order specs).filter (·.role = role) = specs.filter (·.role = role) := by
  refine filter_sortOn_of_key _ specs (order.rank role) ?_
  intro spec hspec
  rw [of_decide_eq_true hspec]

namespace Cluster

/-- The roles of a cluster's entries. -/
def roles (cluster : Cluster) : List Role := cluster.nodes.map NodeEntry.role

theorem role_mem_of_mem_unnamed {cluster : Cluster} {spec : NodeSpec}
    (h : spec ∈ cluster.unnamed) : spec.role ∈ cluster.roles := by
  obtain ⟨entry, hentry, hspec⟩ := List.mem_flatMap.mp h
  rw [(List.mem_replicate.mp hspec).2]
  exact List.mem_map_of_mem hentry

theorem separate_roles_of_known {cluster : Cluster}
    (h : ∀ entry ∈ cluster.nodes, entry.role.isKnown = true) : Role.Separate cluster.roles := by
  refine Role.separate_known.subset ?_
  intro role hrole
  obtain ⟨entry, hentry, rfl⟩ := List.mem_map.mp hrole
  exact Role.mem_known.mpr (h entry hentry)

/-- When the roles are separate, the nodes of a role are numbered as their entries come. -/
theorem filter_plan {cluster : Cluster} (h : Role.Separate cluster.roles) (name : String)
    (order : RoleOrder) (role : Role) :
    (NodeSpec.nameAll (Namer.new name) (NodeSpec.sort order cluster.unnamed)).filter
        (·.role = role)
      = NodeSpec.numbered name 1 (cluster.unnamed.filter (·.role = role)) := by
  have hspecs : ∀ spec ∈ NodeSpec.sort order cluster.unnamed, spec.role ∈ cluster.roles := by
    intro spec hspec
    exact role_mem_of_mem_unnamed ((NodeSpec.sort_perm order cluster.unnamed).mem_iff.mp hspec)
  rw [(Namer.Sequential.new name).filter_nameAll h hspecs role, NodeSpec.filter_sort]
  rfl

theorem rearranged_plan {cluster : Cluster} (h : Role.Separate cluster.roles) (name : String)
    (first second : RoleOrder) :
    NodeSpec.Rearranged
      (NodeSpec.nameAll (Namer.new name) (NodeSpec.sort first cluster.unnamed))
      (NodeSpec.nameAll (Namer.new name) (NodeSpec.sort second cluster.unnamed)) := by
  have hroles : ∀ role,
      (NodeSpec.nameAll (Namer.new name) (NodeSpec.sort first cluster.unnamed)).filter
          (·.role = role)
        = (NodeSpec.nameAll (Namer.new name) (NodeSpec.sort second cluster.unnamed)).filter
          (·.role = role) := by
    intro role
    rw [filter_plan h, filter_plan h]
  have hperm := perm_of_filter_eq NodeSpec.role hroles
  refine ⟨hroles, hperm, ?_⟩
  -- Both nodes are in the first plan, and no name comes twice there.
  intro spec hspec other hother hname
  exact List.inj_on_of_nodup_map (cluster.wellNamed name first).distinct hspec
    (hperm.mem_iff.mpr hother) hname

/-- When no role extends another one, as is so when all roles are known, plans for two orders have
the same nodes with the same names, those of each role in the same order. -/
theorem plan_rearranged (cluster : Cluster) (hcounts : ∀ entry ∈ cluster.nodes, 0 ≤ entry.count) :
    ((∀ entry ∈ cluster.nodes, entry.role.isKnown = true) → Role.Separate cluster.roles)
      ∧ (Role.Separate cluster.roles → ∀ (name : String) (first second : RoleOrder),
        ∃ specs others, cluster.plan name first = .ok specs
          ∧ cluster.plan name second = .ok others
          ∧ NodeSpec.Rearranged specs others) := by
  refine ⟨separate_roles_of_known, ?_⟩
  intro hroles name first second
  exact ⟨_, _, plan_of_nonneg hcounts name first, plan_of_nonneg hcounts name second,
    rearranged_plan hroles name first second⟩

/-- Roles that read much like others but do not lay claim to their names. -/
def lookalikes : Cluster :=
  ⟨[{ role := .worker, image := "a", replicas := some 2 },
    { role := .unknown "worker-2", image := "b", replicas := some 2 },
    { role := .controlPlane, image := "c" },
    { role := .unknown "2worker", image := "d" },
    { role := .worker, image := "e" }]⟩

theorem plan_rearranged_lookalikes :
    (∀ entry ∈ lookalikes.nodes, 0 ≤ entry.count) ∧ Role.Separate lookalikes.roles
      ∧ ∃ specs others, lookalikes.plan "kind" .default = .ok specs
        ∧ lookalikes.plan "kind" ⟨[.unknown "2worker", .worker, .worker]⟩ = .ok others
        ∧ NodeSpec.Rearranged specs others := by
  have hcounts : ∀ entry ∈ lookalikes.nodes, 0 ≤ entry.count := by decide
  have hroles : Role.Separate lookalikes.roles := by decide
  exact ⟨hcounts, hroles, (plan_rearranged lookalikes hcounts).2 hroles "kind" _ _⟩

end Cluster

/-! ### Unknown roles -/

namespace NodeSpec

theorem nameAll_append (namer : Namer) (specs others : List NodeSpec) :
    nameAll namer (specs ++ others)
      = nameAll namer specs ++ nameAll (namer.nameAll (specs.map NodeSpec.role)).2 others := by
  induction specs generalizing namer with
  | nil => rfl
  | cons spec specs ih => simp [nameAll_cons, Namer.nameAll_cons, ih]

/-- An order that lists the known roles and no other puts the nodes of known roles first. -/
theorem sort_eq_append {order : RoleOrder} (horder : order.ListsKnown) (specs : List NodeSpec) :
    sort order specs = sort order (specs.filter (·.role.isKnown))
      ++ sort order (specs.filter (!·.role.isKnown)) := by
  have hknown : ∀ spec : NodeSpec,
      decide (order.rank spec.role < max RoleOrder.unlistedRank order.roles.length)
        = spec.role.isKnown := by
    intro spec
    rw [Bool.eq_iff_iff, decide_eq_true_eq, order.rank_lt_iff]
    exact horder spec.role
  have hsplit := @sortOn_split _ (fun spec : NodeSpec => order.rank spec.role) specs
    (max RoleOrder.unlistedRank order.roles.length)
  simp only [decide_not, hknown] at hsplit
  exact hsplit

end NodeSpec

namespace Cluster

/-- The cluster without its entries of unknown roles. -/
def knownOnly (cluster : Cluster) : Cluster := ⟨cluster.nodes.filter (·.role.isKnown)⟩

theorem unnamed_knownOnly (cluster : Cluster) :
    cluster.knownOnly.unnamed = cluster.unnamed.filter (·.role.isKnown) := by
  refine (filter_flatMap_of_whole ?_ cluster.nodes).symm
  intro entry spec hspec
  rw [(List.mem_replicate.mp hspec).2]
  rfl

/-- What a plan is when the nodes of unknown roles come last. -/
structure KnownFirst (cluster : Cluster) (name : String) (order : RoleOrder)
    (specs : List NodeSpec) : Prop where
  /-- Without its nodes of unknown roles it is the plan of the cluster without such entries. -/
  alone : cluster.knownOnly.plan name order = .ok (specs.filter (·.role.isKnown))
  /-- The nodes of known roles stand before all others. -/
  before : specs.filter (·.role.isKnown) <+: specs
  /-- The nodes of a known role have the first names of the role, in order. -/
  named : ∀ role, role.isKnown = true → ∀ (place : Nat) (spec : NodeSpec),
    (specs.filter (·.role = role))[place]? = some spec →
      spec.name = candidateName name role.wire (place + 1)

/-- A plan is that of the cluster's entries of known roles and, behind it, nodes of unknown
roles. -/
theorem exists_unknown_behind {order : RoleOrder} (horder : order.ListsKnown) (cluster : Cluster)
    (name : String) :
    ∃ behind, NodeSpec.nameAll (Namer.new name) (NodeSpec.sort order cluster.unnamed)
        = NodeSpec.nameAll (Namer.new name) (NodeSpec.sort order cluster.knownOnly.unnamed)
          ++ behind
      ∧ ∀ spec ∈ behind, spec.role.isKnown = false := by
  rw [NodeSpec.sort_eq_append horder, NodeSpec.nameAll_append, ← unnamed_knownOnly]
  refine ⟨_, rfl, ?_⟩
  intro spec hspec
  obtain ⟨unnamed, hunnamed, hrole⟩ := NodeSpec.exists_role_of_mem_nameAll hspec
  have hmem := (List.mem_filter.mp ((NodeSpec.sort_perm order _).mem_iff.mp hunnamed)).2
  rw [← hrole]
  simpa using hmem

theorem isKnown_of_mem_plan_knownOnly {cluster : Cluster} {name : String} {order : RoleOrder} :
    ∀ spec ∈ NodeSpec.nameAll (Namer.new name) (NodeSpec.sort order cluster.knownOnly.unnamed),
      spec.role.isKnown = true := by
  intro spec hspec
  obtain ⟨unnamed, hunnamed, hrole⟩ := exists_role_of_mem_plan hspec
  rw [unnamed_knownOnly] at hunnamed
  rw [← hrole]
  exact (List.mem_filter.mp hunnamed).2

theorem knownFirst {order : RoleOrder} (horder : order.ListsKnown) {cluster : Cluster}
    (hcounts : ∀ entry ∈ cluster.nodes, 0 ≤ entry.count) (name : String) :
    cluster.KnownFirst name order
      (NodeSpec.nameAll (Namer.new name) (NodeSpec.sort order cluster.unnamed)) := by
  obtain ⟨behind, hplan, hbehind⟩ := exists_unknown_behind horder cluster name
  have hknownFilter : (NodeSpec.nameAll (Namer.new name)
      (NodeSpec.sort order cluster.unnamed)).filter (·.role.isKnown)
        = NodeSpec.nameAll (Namer.new name) (NodeSpec.sort order cluster.knownOnly.unnamed) := by
    rw [hplan, List.filter_append, List.filter_eq_self.mpr isKnown_of_mem_plan_knownOnly,
      List.filter_eq_nil_iff.mpr, List.append_nil]
    intro spec hspec
    simp [hbehind spec hspec]
  refine ⟨?_, ?_, ?_⟩
  · rw [hknownFilter]
    refine plan_of_nonneg ?_ name order
    intro entry hentry
    exact hcounts entry (List.mem_of_mem_filter hentry)
  · rw [hknownFilter, hplan]
    exact List.prefix_append _ _
  · -- Nodes of a known role are all in front, and there all roles are separate.
    intro role hrole place spec hspec
    have hnone : behind.filter (·.role = role) = [] := by
      rw [List.filter_eq_nil_iff]
      intro other hother hsame
      have hunknown := hbehind other hother
      rw [of_decide_eq_true hsame, hrole] at hunknown
      exact nomatch hunknown
    have hseparate : Role.Separate cluster.knownOnly.roles :=
      separate_roles_of_known fun entry hentry => (List.mem_filter.mp hentry).2
    rw [hplan, List.filter_append, hnone, List.append_nil, filter_plan hseparate,
      NodeSpec.getElem?_numbered] at hspec
    obtain ⟨unnamed, hunnamed, rfl⟩ := Option.map_eq_some_iff.mp hspec
    have hsame := (List.mem_filter.mp (List.mem_of_getElem? hunnamed)).2
    show candidateName name unnamed.role.wire (1 + place) = _
    rw [of_decide_eq_true hsame, Nat.add_comm]

/-- Under an order that lists the known roles and no other, unknown roles change nothing about the
nodes of known roles. -/
theorem plan_knownFirst (cluster : Cluster) (name : String) (order : RoleOrder)
    (hcounts : ∀ entry ∈ cluster.nodes, 0 ≤ entry.count) (horder : order.ListsKnown) :
    ∃ specs, cluster.plan name order = .ok specs ∧ cluster.KnownFirst name order specs :=
  ⟨_, plan_of_nonneg hcounts name order, knownFirst horder hcounts name⟩

/-- Unknown roles in front that lay claim to the names of known ones. -/
def usurping : Cluster :=
  ⟨[{ role := .unknown "worker", image := "a", replicas := some 2 },
    { role := .unknown "worker2", image := "b" },
    { role := .worker, image := "c", replicas := some 2 },
    { role := .unknown "control-plane", image := "d" },
    { role := .controlPlane, image := "e" }]⟩

theorem plan_knownFirst_usurping :
    (∀ entry ∈ usurping.nodes, 0 ≤ entry.count) ∧ RoleOrder.default.ListsKnown
      ∧ ∃ specs, usurping.plan "kind" .default = .ok specs
        ∧ usurping.KnownFirst "kind" .default specs := by
  have hcounts : ∀ entry ∈ usurping.nodes, 0 ≤ entry.count := by decide
  exact ⟨hcounts, RoleOrder.listsKnown_default,
    plan_knownFirst usurping "kind" .default hcounts RoleOrder.listsKnown_default⟩

end Cluster
end ClusterProvision
