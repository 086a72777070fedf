import ClusterProvision.Proofs.Validation
import Mathlib.Algebra.Ring.Int.Defs

/-!
# `ClusterProvision.Proofs.Flattening`: entries and their nodes

Either no entry has a negative count, and the expansion puts the nodes of each entry in its place.
Or there is a first entry with a negative count, and the expansion reports it (`expand_cases`).
Everything else follows from this.

Both parts of a list can be expanded on their own: the nodes of the second part come behind those of
the first, and a fault in the second part is reported with the entries of the first counted in
(`expand_append`, `expand_append_of_error`, `expand_append_of_error_behind`). What has been expanded
has no counts any more, so it expands to itself (`expand_again`). `flattens` puts this together for
every list of entries.
-/

set_option autoImplicit false

namespace ClusterProvision

namespace NodeEntry

/-- The nodes of an entry, as entries without a count. -/
def copies (entry : NodeEntry) : List NodeEntry :=
  List.replicate entry.count.toInt.toNat entry.single

theorem length_copies {entry : NodeEntry} (h : 0 ≤ entry.count) :
    (entry.copies.length : Int) = entry.count.toInt := by
  have hcount : (0 : Int) ≤ entry.count.toInt := Int32.le_iff_toInt_le.mp h
  rw [copies, List.length_replicate, Int.toNat_of_nonneg hcount]

theorem eq_single_of_mem_copies {entry node : NodeEntry} (h : node ∈ entry.copies) :
    node = entry.single := List.eq_of_mem_replicate h

/-- An entry without a count is its only node. -/
theorem copies_of_unset {entry : NodeEntry} (h : entry.replicas = none) :
    entry.copies = [entry] := by
  have hcount : entry.count.toInt.toNat = 1 := by
    rw [count, h]
    rfl
  rw [copies, hcount]
  show [{ entry with replicas := none }] = [entry]
  rw [← h]

end NodeEntry

theorem length_flatMap_copies {entries : List NodeEntry}
    (h : ∀ entry ∈ entries, 0 ≤ entry.count) :
    ((entries.flatMap NodeEntry.copies).length : Int)
      = (entries.map fun entry => entry.count.toInt).sum := by
  induction entries with
  | nil => rfl
  | cons entry entries ih =>
    obtain ⟨hentry, hrest⟩ := List.forall_mem_cons.mp h
    rw [List.flatMap_cons, List.length_append, Int.natCast_add, NodeEntry.length_copies hentry,
      ih hrest, List.map_cons, List.sum_cons]

theorem expand_of_nonneg {entries : List NodeEntry} (h : ∀ entry ∈ entries, 0 ≤ entry.count) :
    expand entries = .ok (entries.flatMap NodeEntry.copies) := expandFrom_of_nonneg 0 h

/-- The first entry with a negative count, if there is one, decides about the expansion. -/
theorem expand_cases (entries : List NodeEntry) :
    ((∀ entry ∈ entries, 0 ≤ entry.count)
        ∧ expand entries = .ok (entries.flatMap NodeEntry.copies))
      ∨ ∃ index role n, expand entries = .error (.negativeReplicas index role n) := by
  cases hfirst : entries.find? fun entry => entry.count < 0 with
  | none =>
    have hcounts : ∀ entry ∈ entries, 0 ≤ entry.count := by
      intro entry hentry
      have hentry := List.find?_eq_none.mp hfirst entry hentry
      exact Int32.not_lt.mp (by simpa using hentry)
    exact .inl ⟨hcounts, expand_of_nonneg hcounts⟩
  | some entry =>
    obtain ⟨hneg, before, after, hsplit, hbefore⟩ := List.find?_eq_some_iff_append.mp hfirst
    refine .inr ⟨_, _, _, (expand_eq_error_iff _ _).mpr ⟨before, entry, after, hsplit, ?_, ?_, rfl⟩⟩
    · intro other hother
      exact Int32.not_lt.mp (by simpa using hbefore other hother)
    · simpa using hneg

theorem expand_eq_ok_iff (entries nodes : List NodeEntry) :
    expand entries = .ok nodes
      ↔ (∀ entry ∈ entries, 0 ≤ entry.count) ∧ nodes = entries.flatMap NodeEntry.copies := by
  constructor
  · intro h
    rcases expand_cases entries with ⟨hcounts, hok⟩ | ⟨index, role, n, herror⟩
    · rw [hok] at h
      exact ⟨hcounts, (Except.ok.inj h).symm⟩
    · rw [herror] at h
      exact nomatch h
  · rintro ⟨hcounts, rfl⟩
    exact expand_of_nonneg hcounts

/-! ### Lists one after another -/

section
variable {entries others nodes more : List NodeEntry}

theorem expand_append (h : expand entries = .ok nodes) (hmore : expand others = .ok more) :
    expand (entries ++ others) = .ok (nodes ++ more) := by
  obtain ⟨hcounts, rfl⟩ := (expand_eq_ok_iff _ _).mp h
  obtain ⟨hothers, rfl⟩ := (expand_eq_ok_iff _ _).mp hmore
  refine (expand_eq_ok_iff _ _).mpr ⟨List.forall_mem_append.mpr ⟨hcounts, hothers⟩, ?_⟩
  rw [List.flatMap_append]

/-- What stands behind the entry that is reported makes no difference. -/
theorem expand_append_of_error {fault : ClusterFault} (h : expand entries = .error fault) :
    expand (entries ++ others) = .error fault := by
  obtain ⟨before, entry, after, rfl, hbefore, hneg, rfl⟩ := (expand_eq_error_iff _ _).mp h
  refine (expand_eq_error_iff _ _).mpr ⟨before, entry, after ++ others, ?_, hbefore, hneg, rfl⟩
  rw [List.append_assoc, List.cons_append]

/-- Entries in front of the one that is reported are counted in. -/
theorem expand_append_of_error_behind {index : Nat} {role : String} {n : Int32}
    (h : expand entries = .ok nodes)
    (herror : expand others = .error (.negativeReplicas index role n)) :
    expand (entries ++ others) = .error (.negativeReplicas (entries.length + index) role n) := by
  obtain ⟨hcounts, -⟩ := (expand_eq_ok_iff _ _).mp h
  obtain ⟨before, entry, after, rfl, hbefore, hneg, hfault⟩ := (expand_eq_error_iff _ _).mp herror
  refine (expand_eq_error_iff _ _).mpr ⟨entries ++ before, entry, after, ?_, ?_, hneg, ?_⟩
  · rw [List.append_assoc]
  · exact List.forall_mem_append.mpr ⟨hcounts, hbefore⟩
  · -- The index counts the entries before, and the first list is now among them.
    obtain ⟨rfl, rfl, rfl⟩ := ClusterFault.negativeReplicas.inj hfault
    rw [List.length_append]

/-- Entries that have been expanded stay as they are. -/
theorem expand_again (h : expand entries = .ok nodes) : expand nodes = .ok nodes := by
  obtain ⟨-, rfl⟩ := (expand_eq_ok_iff _ _).mp h
  have hunset : ∀ node ∈ entries.flatMap NodeEntry.copies, node.replicas = none := by
    intro node hnode
    obtain ⟨entry, -, hcopy⟩ := List.mem_flatMap.mp hnode
    rw [NodeEntry.eq_single_of_mem_copies hcopy]
    rfl
  refine (expand_eq_ok_iff _ _).mpr ⟨?_, ?_⟩
  · intro node hnode
    rw [NodeEntry.count_nonneg_iff, hunset node hnode]
    exact nofun
  · rw [List.flatMap_congr fun node hnode => NodeEntry.copies_of_unset (hunset node hnode),
      List.flatMap_singleton']

end

/-- What the expansion makes of a list of entries. -/
structure Flattens (entries : List NodeEntry) : Prop where
  /-- It succeeds if no count is negative. -/
  succeeds_iff : (∃ nodes, expand entries = .ok nodes) ↔ ∀ entry ∈ entries, 0 ≤ entry.count
  /-- Else it reports the first negative count, with the index of its entry and the text of the
  role. -/
  reports_iff : ∀ fault, expand entries = .error fault
    ↔ ∃ before entry after, entries = before ++ entry :: after
      ∧ (∀ other ∈ before, 0 ≤ other.count) ∧ entry.count < 0
      ∧ fault = .negativeReplicas before.length entry.role.wire entry.count
  /-- There are as many nodes as the entries ask for. -/
  length : ∀ nodes, expand entries = .ok nodes →
    (nodes.length : Int) = (entries.map fun entry => entry.count.toInt).sum
  /-- The nodes of each entry stand together, in its place. They are as many as it asks for, and are
  equal to it except that they have no count. -/
  groups : ∀ nodes, expand entries = .ok nodes →
    ∃ groups : List (List NodeEntry), nodes = groups.flatten
      ∧ List.Forall₂ (fun entry group => (group.length : Int) = entry.count.toInt
          ∧ ∀ node ∈ group, node = { entry with replicas := none }) entries groups
  /-- Lists that can be expanded can be expanded one after the other. -/
  append : ∀ others nodes more, expand entries = .ok nodes → expand others = .ok more →
    expand (entries ++ others) = .ok (nodes ++ more)
  /-- In a fault in the second list, the entries of the first are counted in. -/
  appendBehind : ∀ others nodes index role n, expand entries = .ok nodes →
    expand others = .error (.negativeReplicas index role n) →
    expand (entries ++ others) = .error (.negativeReplicas (entries.length + index) role n)
  /-- A fault in the first list is reported whatever the second one is. -/
  appendFault : ∀ others fault, expand entries = .error fault →
    expand (entries ++ others) = .error fault
  /-- To expand what has been expanded changes nothing. -/
  again : ∀ nodes, expand entries = .ok nodes → expand nodes = .ok nodes

/-- Expansion puts the nodes of each entry in its place, and can be repeated. -/
theorem flattens (entries : List NodeEntry) : Flattens entries where
  succeeds_iff := by
    simp only [expand_eq_ok_iff]
    exact ⟨fun ⟨_, hcounts, _⟩ => hcounts, fun hcounts => ⟨_, hcounts, rfl⟩⟩
  reports_iff := expand_eq_error_iff entries
  length := by
    intro nodes h
    obtain ⟨hcounts, rfl⟩ := (expand_eq_ok_iff _ _).mp h
    exact length_flatMap_copies hcounts
  groups := by
    intro nodes h
    obtain ⟨hcounts, rfl⟩ := (expand_eq_ok_iff _ _).mp h
    refine ⟨entries.map NodeEntry.copies, List.flatMap_def, ?_⟩
    refine List.forall₂_map_right_iff.mpr (List.forall₂_same.mpr ?_)
    intro entry hentry
    refine ⟨NodeEntry.length_copies (hcounts entry hentry), ?_⟩
    intro node hnode
    exact NodeEntry.eq_single_of_mem_copies hnode
  append := by
    intro others nodes more h hmore
    exact expand_append h hmore
  appendBehind := by
    intro others nodes index role n h herror
    exact expand_append_of_error_behind h herror
  appendFault := by
    intro others fault h
    exact expand_append_of_error h
  again := by
    intro nodes h
    exact expand_again h

end ClusterProvision
