import ClusterProvision.Proofs.TimedReference
import ClusterProvision.Proofs.Validation

/-!
# `ClusterProvision.Proofs.Refusal`: clusters that are refused

A cluster is `Refused` if its check fails or if it has a node of an unknown role. If the check
succeeds, the cluster has a plan. If a node of the plan has an unknown role, the run of the plan
fails (`outcome_of_unknown`).
-/

set_option autoImplicit false

namespace ClusterProvision

namespace Cluster

/-- The check of a cluster fails, or it has a node of an unknown role. -/
def Refused (cluster : Cluster) : Prop :=
  (∃ fault, cluster.validate = .error fault)
    ∨ ∃ entry ∈ cluster.nodes, 1 ≤ entry.count ∧ entry.role.isKnown = false

theorem of_not_refused (cluster : Cluster) (h : ¬ cluster.Refused) :
    cluster.validate = .ok ()
      ∧ ∀ entry ∈ cluster.nodes, 1 ≤ entry.count → entry.role.isKnown = true := by
  refine ⟨?_, ?_⟩
  · rcases cluster.validate_cases with hfault | hvalid
    · exact absurd (.inl hfault) h
    · exact hvalid
  · intro entry hentry hcount
    by_contra hunknown
    exact h (.inr ⟨entry, hentry, hcount, Bool.not_eq_true _ ▸ hunknown⟩)

/-- An entry of an unknown role that has a node is in the plan. -/
theorem exists_unknown_plan {cluster : Cluster} {entry : NodeEntry} (hentry : entry ∈ cluster.nodes)
    (hcount : 1 ≤ entry.count) (hunknown : entry.role.isKnown = false) (name : String)
    (order : RoleOrder) :
    ∃ spec ∈ NodeSpec.nameAll (Namer.new name) (NodeSpec.sort order cluster.unnamed),
      spec.role.isKnown = false := by
  have hroles := NodeSpec.map_nameAll NodeSpec.role (fun _ _ => rfl) (Namer.new name)
    (NodeSpec.sort order cluster.unnamed)
  have hmem : NodeSpec.ofEntry entry ∈ cluster.unnamed := by
    refine List.mem_flatMap.mpr ⟨entry, hentry, List.mem_replicate.mpr ⟨?_, rfl⟩⟩
    rw [Int32.le_iff_toInt_le] at hcount
    have hpos : (1 : Int) ≤ entry.count.toInt := hcount
    omega
  have hsorted := List.mem_map_of_mem (f := NodeSpec.role)
    ((NodeSpec.sort_perm order cluster.unnamed).mem_iff.mpr hmem)
  rw [← hroles] at hsorted
  obtain ⟨spec, hspec, hrole⟩ := List.mem_map.mp hsorted
  refine ⟨spec, hspec, ?_⟩
  rw [hrole]
  exact hunknown

end Cluster

namespace Provisioning

theorem result_ofCluster_of_plan {settings : Settings} {provider : Provider} {cluster : Cluster}
    {name label : String} {specs : List NodeSpec}
    (h : plan cluster name ⟨settings.roleOrder⟩ = .ok specs) :
    (ofCluster settings provider cluster name label).result
      = outcome (crew settings provider label specs) := by
  rw [ofCluster, h]
  rfl

/-- A node of an unknown role fails the run. -/
theorem outcome_of_unknown {settings : Settings} {provider : Provider} {label : String}
    {specs : List NodeSpec} (h : ∃ spec ∈ specs, spec.role.isKnown = false) :
    ∃ failure, outcome (crew settings provider label specs) = .error failure := by
  obtain ⟨spec, hspec, hunknown⟩ := h
  obtain ⟨result, hresult, houtcome⟩ := exists_outcome settings provider label specs
  rw [houtcome]
  cases result with
  | error failure => exact ⟨failure, rfl⟩
  | ok nodes =>
    obtain ⟨node, hnode⟩ := (Crew.ok_iff_courses_done hresult).mp ⟨nodes, rfl⟩ _
      (List.mem_map_of_mem hspec)
    rw [NodeRun.ending_of_unknown hunknown] at hnode
    exact nomatch hnode

end Provisioning

end ClusterProvision
