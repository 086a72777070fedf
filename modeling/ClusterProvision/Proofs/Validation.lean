import ClusterProvision.Proofs.Plan
import ClusterProvision.Provisioning

/-!
# `ClusterProvision.Proofs.Validation`: the two checks of the replica counts

The replica counts of a cluster are looked at twice: when the cluster is checked, together with the
images, and again when its entries are replaced by their nodes. Each time the entries are gone
through from the first one on, and what is reported is the fault of the first entry that has one:

* `Cluster.validate_eq_error_iff`: the check reports the first entry that is not in order, and the
  count comes before the image;
* `expand_eq_error_iff`: the expansion reports the first entry with a negative count.

A list of entries is cut at the entry that is reported, so the entries in front of it are those that
have no such fault, and their number is the index in the report. An entry with a negative count is
not in order. So the check comes to a fault at the latest where the expansion does, and it is the
same fault if no image is missing before. `Cluster.checksAgree` puts this together: nothing is left
for the second check to find once the first one has passed.
-/

set_option autoImplicit false

namespace ClusterProvision

/-! ### Entries -/

namespace NodeEntry

/-- An entry has a replica count that is not negative, or none, and an image that is not all white
space. -/
def InOrder (entry : NodeEntry) : Prop :=
  (∀ n, entry.replicas = some n → 0 ≤ n) ∧ ∃ c ∈ entry.image.toList, Text.isBlank c = false

/-- What is wrong with an entry at an index. The image counts only if the replica count is in
order. -/
inductive Faulty (entry : NodeEntry) (index : Nat) : ClusterFault → Prop
  | replicas (n : Int32) (h : entry.replicas = some n) (hneg : n < 0) :
    Faulty entry index (.negativeReplicas index entry.role.wire n)
  | image (hcount : ∀ n, entry.replicas = some n → 0 ≤ n)
    (h : ∀ c ∈ entry.image.toList, Text.isBlank c = true) :
    Faulty entry index (.missingImage index)

/-- An unset count is one node, so it is as good as a count that is not negative. -/
theorem count_nonneg_iff (entry : NodeEntry) :
    0 ≤ entry.count ↔ ∀ n, entry.replicas = some n → 0 ≤ n := by
  unfold count
  cases entry.replicas with
  | none => simp
  | some n => simp

theorem replicas_of_count_neg {entry : NodeEntry} (h : entry.count < 0) :
    entry.replicas = some entry.count := by
  unfold count at h ⊢
  cases hreplicas : entry.replicas with
  | none =>
    rw [hreplicas] at h
    exact absurd h (by decide)
  | some n => rfl

theorem count_of_replicas {entry : NodeEntry} {n : Int32} (h : entry.replicas = some n) :
    entry.count = n := by
  rw [count, h]
  rfl

theorem allBlank_eq_false_iff (entry : NodeEntry) :
    Text.allBlank entry.image = false ↔ ∃ c ∈ entry.image.toList, Text.isBlank c = false := by
  simp [Text.allBlank]

/-- The check of an entry finds nothing if and only if the entry is in order. -/
theorem fault?_eq_none_iff (entry : NodeEntry) (index : Nat) :
    entry.fault? index = none ↔ entry.InOrder := by
  rw [InOrder, ← count_nonneg_iff, ← allBlank_eq_false_iff, ← Int32.not_lt, fault?]
  by_cases hcount : entry.count < 0
  · simp [hcount]
  · cases hblank : Text.allBlank entry.image <;> simp [hcount]

/-- The check of an entry finds what is wrong with it. -/
theorem fault?_eq_some_iff (entry : NodeEntry) (index : Nat) (fault : ClusterFault) :
    entry.fault? index = some fault ↔ entry.Faulty index fault := by
  constructor
  · intro h
    unfold fault? at h
    split at h
    · rename_i hcount
      cases h
      exact .replicas entry.count (replicas_of_count_neg hcount) hcount
    · rename_i hcount
      split at h
      · rename_i hblank
        cases h
        have hnonneg := entry.count_nonneg_iff.mp (Int32.not_lt.mp hcount)
        exact .image hnonneg (List.all_eq_true.mp hblank)
      · exact nomatch h
  · intro h
    unfold fault?
    cases h with
    | replicas n hreplicas hneg => rw [count_of_replicas hreplicas, if_pos hneg]
    | image hcount hblank =>
      have hblank : Text.allBlank entry.image = true := List.all_eq_true.mpr hblank
      rw [if_neg (Int32.not_lt.mpr (entry.count_nonneg_iff.mpr hcount)), if_pos hblank]

theorem InOrder.count_nonneg {entry : NodeEntry} (h : entry.InOrder) : 0 ≤ entry.count :=
  entry.count_nonneg_iff.mpr h.1

end NodeEntry

/-! ### The first fault -/

/-- The first of some entries that is not fine, and what is wrong with it at its place behind an
index. -/
def FirstOf (fine : NodeEntry → Prop) (wrong : NodeEntry → Nat → ClusterFault → Prop) (index : Nat)
    (entries : List NodeEntry) (fault : ClusterFault) : Prop :=
  ∃ before entry after, entries = before ++ entry :: after
    ∧ (∀ other ∈ before, fine other) ∧ wrong entry (before.length + index) fault

section
variable {fine : NodeEntry → Prop} {wrong : NodeEntry → Nat → ClusterFault → Prop}

theorem not_firstOf_nil (index : Nat) (fault : ClusterFault) :
    ¬ FirstOf fine wrong index [] fault := by
  rintro ⟨before, entry, after, hsplit, -⟩
  simp at hsplit

theorem firstOf_cons (index : Nat) (first : NodeEntry) (entries : List NodeEntry)
    (fault : ClusterFault) :
    FirstOf fine wrong index (first :: entries) fault
      ↔ wrong first index fault ∨ fine first ∧ FirstOf fine wrong (index + 1) entries fault := by
  constructor
  · rintro ⟨before, entry, after, hsplit, hbefore, hentry⟩
    cases before with
    | nil =>
      obtain ⟨rfl, rfl⟩ := List.cons.inj hsplit
      rw [List.length_nil, Nat.zero_add] at hentry
      exact .inl hentry
    | cons other before =>
      obtain ⟨rfl, rfl⟩ := List.cons.inj hsplit
      obtain ⟨hfirst, hbefore⟩ := List.forall_mem_cons.mp hbefore
      rw [List.length_cons, Nat.add_assoc, Nat.add_comm 1] at hentry
      exact .inr ⟨hfirst, before, entry, after, rfl, hbefore, hentry⟩
  · rintro (hfirst | ⟨hfirst, before, entry, after, rfl, hbefore, hentry⟩)
    · refine ⟨[], first, entries, rfl, nofun, ?_⟩
      rwa [List.length_nil, Nat.zero_add]
    · refine ⟨first :: before, entry, after, rfl, List.forall_mem_cons.mpr ⟨hfirst, hbefore⟩, ?_⟩
      rwa [List.length_cons, Nat.add_assoc, Nat.add_comm 1]

end

/-- Entries with something wrong: the first one that is not in order, at its index. -/
def FirstFault (entries : List NodeEntry) (fault : ClusterFault) : Prop :=
  ∃ before entry after, entries = before ++ entry :: after
    ∧ (∀ other ∈ before, other.InOrder) ∧ entry.Faulty before.length fault

theorem firstFault?_eq_none_iff (index : Nat) (entries : List NodeEntry) :
    firstFault? index entries = none ↔ ∀ entry ∈ entries, entry.InOrder := by
  induction entries generalizing index with
  | nil => simp [firstFault?]
  | cons entry entries ih => simp [firstFault?, NodeEntry.fault?_eq_none_iff, ih]

theorem firstFault?_eq_some_iff (index : Nat) (entries : List NodeEntry) (fault : ClusterFault) :
    firstFault? index entries = some fault
      ↔ FirstOf NodeEntry.InOrder NodeEntry.Faulty index entries fault := by
  induction entries generalizing index with
  | nil => simp [firstFault?, not_firstOf_nil]
  | cons first entries ih =>
    rw [firstFault?, Option.or_eq_some_iff, NodeEntry.fault?_eq_some_iff,
      NodeEntry.fault?_eq_none_iff, ih, firstOf_cons]

namespace Cluster

theorem validate_eq_ok_iff (cluster : Cluster) :
    cluster.validate = .ok () ↔ ∀ entry ∈ cluster.nodes, entry.InOrder := by
  rw [← firstFault?_eq_none_iff 0, validate]
  cases firstFault? 0 cluster.nodes <;> simp

theorem validate_eq_error_iff (cluster : Cluster) (fault : ClusterFault) :
    cluster.validate = .error fault ↔ FirstFault cluster.nodes fault := by
  have hfirst : firstFault? 0 cluster.nodes = some fault ↔ FirstFault cluster.nodes fault :=
    firstFault?_eq_some_iff 0 cluster.nodes fault
  rw [← hfirst, validate]
  cases firstFault? 0 cluster.nodes <;> simp

theorem validate_cases (cluster : Cluster) :
    (∃ fault, cluster.validate = .error fault) ∨ cluster.validate = .ok () := by
  cases h : cluster.validate with
  | error fault => exact .inl ⟨fault, rfl⟩
  | ok done => exact .inr rfl

/-- A cluster that passes its check has no negative counts. -/
theorem count_nonneg_of_validate {cluster : Cluster} (h : cluster.validate = .ok ()) :
    ∀ entry ∈ cluster.nodes, 0 ≤ entry.count := by
  intro entry hentry
  exact (cluster.validate_eq_ok_iff.mp h entry hentry).count_nonneg

end Cluster

/-- A cluster that passes its check has a plan. -/
theorem Provisioning.plan_of_validate {cluster : Cluster} (h : cluster.validate = .ok ())
    (name : String) (order : RoleOrder) :
    plan cluster name order
      = .ok (NodeSpec.nameAll (Namer.new name) (NodeSpec.sort order cluster.unnamed)) := by
  rw [plan, h]
  exact Cluster.plan_of_nonneg (Cluster.count_nonneg_of_validate h) name order

/-! ### The first negative count -/

/-- What is wrong with an entry for the expansion. -/
def NodeEntry.NegativeCount (entry : NodeEntry) (index : Nat) (fault : ClusterFault) : Prop :=
  entry.count < 0 ∧ fault = .negativeReplicas index entry.role.wire entry.count

theorem expandFrom_eq_error_iff (index : Nat) (entries : List NodeEntry) (fault : ClusterFault) :
    expandFrom index entries = .error fault
      ↔ FirstOf (0 ≤ ·.count) NodeEntry.NegativeCount index entries fault := by
  induction entries generalizing index with
  | nil => simp [expandFrom, not_firstOf_nil]
  | cons first entries ih =>
    rw [firstOf_cons, ← ih, NodeEntry.NegativeCount, ← Int32.not_lt, expandFrom]
    by_cases hcount : first.count < 0
    · simp [hcount, eq_comm]
    · rw [if_neg hcount]
      -- What stands behind the first entry is expanded, and its fault is passed on.
      cases expandFrom (index + 1) entries with
      | error other =>
        show Except.error other = Except.error fault ↔ _
        simp [hcount]
      | ok others =>
        show Except.ok _ = Except.error fault ↔ _
        simp [hcount]

/-- The expansion reports the first entry with a negative count. -/
theorem expand_eq_error_iff (entries : List NodeEntry) (fault : ClusterFault) :
    expand entries = .error fault
      ↔ ∃ before entry after, entries = before ++ entry :: after
        ∧ (∀ other ∈ before, 0 ≤ other.count) ∧ entry.count < 0
        ∧ fault = .negativeReplicas before.length entry.role.wire entry.count :=
  expandFrom_eq_error_iff 0 entries fault

/-! ### Both checks -/

/-- The index of the entry that a fault is about. -/
def ClusterFault.index? : ClusterFault → Option Nat
  | negativeReplicas index .. => some index
  | missingImage index => some index
  | _ => none

theorem NodeEntry.Faulty.index?_eq {entry : NodeEntry} {index : Nat} {fault : ClusterFault}
    (h : entry.Faulty index fault) : fault.index? = some index := by
  cases h <;> rfl

namespace Cluster

theorem plan_of_expand_error {cluster : Cluster} {fault : ClusterFault}
    (h : expand cluster.nodes = .error fault) (name : String) (order : RoleOrder) :
    cluster.plan name order = .error fault := by
  rw [plan, h]
  rfl

/-- When the check reports a replica count, the expansion does, too. -/
theorem expand_of_validate_error {cluster : Cluster} {index : Nat} {role : String} {n : Int32}
    (h : cluster.validate = .error (.negativeReplicas index role n)) :
    expand cluster.nodes = .error (.negativeReplicas index role n) := by
  obtain ⟨before, entry, after, hsplit, hbefore, hentry⟩ := (validate_eq_error_iff _ _).mp h
  -- The entry that the check stops at is also the first one with a negative count.
  cases hentry with
  | replicas _ hreplicas hneg =>
    rw [expand_eq_error_iff]
    have hcount := NodeEntry.count_of_replicas hreplicas
    refine ⟨before, entry, after, hsplit, ?_, ?_, ?_⟩
    · intro other hother
      exact (hbefore other hother).count_nonneg
    · rwa [hcount]
    · rw [hcount]

/-- When the expansion reports an entry, the check reports that entry or one before it. -/
theorem validate_of_expand_error {cluster : Cluster} {fault : ClusterFault}
    (h : expand cluster.nodes = .error fault) :
    ∃ index other earlier, fault.index? = some index ∧ cluster.validate = .error other
      ∧ other.index? = some earlier ∧ earlier ≤ index := by
  obtain ⟨before, entry, after, hsplit, -, hneg, rfl⟩ := (expand_eq_error_iff _ _).mp h
  have hplace : cluster.nodes[before.length]? = some entry := by
    rw [hsplit]
    simp
  have hout : ¬ entry.InOrder := fun horder => Int32.not_lt.mpr horder.count_nonneg hneg
  rcases cluster.validate_cases with ⟨other, hother⟩ | hvalid
  · obtain ⟨inOrder, first, behind, hfirst, hinOrder, hfaulty⟩ :=
      (validate_eq_error_iff _ _).mp hother
    refine ⟨before.length, other, inOrder.length, rfl, hother, hfaulty.index?_eq, ?_⟩
    -- Otherwise the entry with the negative count would be among those in order.
    by_contra hlt
    rw [hfirst, List.getElem?_append_left (Nat.lt_of_not_le hlt)] at hplace
    exact hout (hinOrder entry (List.mem_of_getElem? hplace))
  · exact absurd (cluster.validate_eq_ok_iff.mp hvalid entry (List.mem_of_getElem? hplace)) hout

/-- When no image is missing, the check reports what the expansion does. -/
theorem validate_eq_of_images {cluster : Cluster} {fault : ClusterFault}
    (h : expand cluster.nodes = .error fault)
    (himages : ∀ entry ∈ cluster.nodes, ∃ c ∈ entry.image.toList, Text.isBlank c = false) :
    cluster.validate = .error fault := by
  obtain ⟨before, entry, after, hsplit, hbefore, hneg, rfl⟩ := (expand_eq_error_iff _ _).mp h
  rw [validate_eq_error_iff]
  refine ⟨before, entry, after, hsplit, ?_, .replicas _ (NodeEntry.replicas_of_count_neg hneg) hneg⟩
  -- The entries before it have counts that are not negative, and images.
  intro other hother
  have hmem : other ∈ cluster.nodes := by
    rw [hsplit]
    exact List.mem_append_left _ hother
  exact ⟨other.count_nonneg_iff.mp (hbefore other hother), himages other hmem⟩

/-- What the check of a cluster and the expansion of its entries have to do with each other. -/
structure ChecksAgree (cluster : Cluster) : Prop where
  valid_iff : cluster.validate = .ok () ↔ ∀ entry ∈ cluster.nodes, entry.InOrder
  /-- The check reports the first entry that is not in order, and no other fault. -/
  reported : ∀ fault, cluster.validate = .error fault ↔ FirstFault cluster.nodes fault
  /-- A cluster that passes its check can be expanded and planned. -/
  expands : cluster.validate = .ok () → (∃ entries, expand cluster.nodes = .ok entries)
    ∧ ∀ name order, ∃ specs, cluster.plan name order = .ok specs
  /-- A replica count that the check reports is reported again, with the same index, role and
  count. -/
  again : ∀ index role n, cluster.validate = .error (.negativeReplicas index role n) →
    expand cluster.nodes = .error (.negativeReplicas index role n)
      ∧ ∀ name order, cluster.plan name order = .error (.negativeReplicas index role n)
  /-- The expansion reports no entry before the one that the check reports. -/
  noEarlier : ∀ fault, expand cluster.nodes = .error fault →
    ∃ index other earlier, fault.index? = some index ∧ cluster.validate = .error other
      ∧ other.index? = some earlier ∧ earlier ≤ index
  /-- Without missing images the check reports what the expansion does. -/
  same : ∀ fault, expand cluster.nodes = .error fault →
    (∀ entry ∈ cluster.nodes, ∃ c ∈ entry.image.toList, Text.isBlank c = false) →
      cluster.validate = .error fault
  /-- When a cluster is checked and then planned, every fault comes from the check. -/
  first : ∀ name order fault,
    Provisioning.plan cluster name order = .error fault ↔ cluster.validate = .error fault

/-- The check of a cluster leaves nothing for the expansion of its entries to find. -/
theorem checksAgree (cluster : Cluster) : cluster.ChecksAgree := by
  refine { valid_iff := cluster.validate_eq_ok_iff, reported := cluster.validate_eq_error_iff
           expands := ?expands, again := ?again, noEarlier := ?noEarlier, same := ?same
           first := ?first }
  case expands =>
    intro hvalid
    have hcounts := count_nonneg_of_validate hvalid
    refine ⟨⟨_, expandFrom_of_nonneg 0 hcounts⟩, ?_⟩
    intro name order
    exact ⟨_, plan_of_nonneg hcounts name order⟩
  case again =>
    intro index role n h
    have hexpand := expand_of_validate_error h
    exact ⟨hexpand, plan_of_expand_error hexpand⟩
  case noEarlier =>
    intro fault h
    exact validate_of_expand_error h
  case same =>
    intro fault h himages
    exact validate_eq_of_images h himages
  case first =>
    intro name order fault
    rcases cluster.validate_cases with ⟨other, hother⟩ | hvalid
    · rw [Provisioning.plan, hother]
      show Except.error other = Except.error fault ↔ _
      simp
    · rw [Provisioning.plan_of_validate hvalid, hvalid]
      simp

end Cluster
end ClusterProvision
