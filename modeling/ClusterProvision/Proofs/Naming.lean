import ClusterProvision.Naming
import Mathlib.Data.List.Nodup
import Mathlib.Data.List.Perm.Subperm

/-!
# `ClusterProvision.Proofs.Naming`: names are never given twice

A role's names are all different (`candidateName_inj`), so a search among as many of them as
names have been given finds a free one (`Namer.firstFree_not_mem`). It is the first free name
above the role's count (`Namer.name_cases`).

`Namer.Sound` is what a namer keeps: the names that it has given are all different, as many as
it has been called for, and a role's names up to its count are among them. Therefore no count
is above the number of calls (`Namer.Sound.count_le`).
-/

set_option autoImplicit false

namespace ClusterProvision

/-- The decimal digits of a number determine it. -/
theorem repr_inj {m n : Nat} (h : m.repr = n.repr) : m = n := by
  -- `Nat.ofDigitChars` reads the digits back.
  have hdigits : Nat.toDigits 10 m = Nat.toDigits 10 n := by
    rw [← Nat.toList_repr, ← Nat.toList_repr, h]
  have hread := congrArg (fun digits => Nat.ofDigitChars 10 digits 0) hdigits
  simpa using hread

/-- A role's names are all different. -/
theorem candidateName_inj {cluster role : String} {j k : Nat}
    (h : candidateName cluster role j = candidateName cluster role k) : j = k := by
  unfold candidateName at h
  have hlist := congrArg String.toList h
  have hlength := congrArg List.length hlist
  by_cases hj : j = 1
  · by_cases hk : k = 1
    · rw [hj, hk]
    · -- A name with a number is longer than the one without. So the two differ.
      simp [hj, hk] at hlength
  · by_cases hk : k = 1
    · simp [hj, hk] at hlength
    · simp only [hj, hk, if_false, String.toList_append] at hlist
      exact repr_inj (String.toList_inj.mp (List.append_cancel_left hlist))

/-- As many names of a role as are taken, one after another, have been given. -/
theorem le_length_of_taken (cluster role : String) {issued : List String} {k count : Nat}
    (h : ∀ j, k ≤ j → j < k + count → candidateName cluster role j ∈ issued) :
    count ≤ issued.length := by
  have hnodup : ((List.range' k count).map (candidateName cluster role)).Nodup :=
    List.Nodup.map (fun _ _ => candidateName_inj) List.nodup_range'
  have hsub : (List.range' k count).map (candidateName cluster role) ⊆ issued := by
    intro name hname
    obtain ⟨j, hj, rfl⟩ := List.mem_map.mp hname
    obtain ⟨hle, hlt⟩ := List.mem_range'_1.mp hj
    exact h j hle hlt
  have hlength := (hnodup.subperm hsub).length_le
  rwa [List.length_map, List.length_range'] at hlength

namespace Namer

/-! ### The search for a free name -/

section
variable (namer : Namer) (role : String) (fuel k : Nat)

theorem le_firstFree : k ≤ namer.firstFree role fuel k := by
  induction fuel generalizing k with
  | zero => exact Nat.le_refl k
  | succ fuel ih =>
    unfold firstFree
    split
    · exact Nat.le_of_succ_le (ih (k + 1))
    · exact Nat.le_refl k

/-- The search passes over names that are taken. -/
theorem taken_of_lt_firstFree {j : Nat} (hle : k ≤ j) (hlt : j < namer.firstFree role fuel k) :
    candidateName namer.cluster role j ∈ namer.issued := by
  induction fuel generalizing k with
  | zero => exact absurd hlt (Nat.not_lt.mpr hle)
  | succ fuel ih =>
    unfold firstFree at hlt
    split at hlt
    · rename_i htaken
      by_cases hj : j = k
      · rw [hj]
        exact List.contains_iff_mem.mp htaken
      · exact ih (k + 1) (by omega) hlt
    · exact absurd hlt (Nat.not_lt.mpr hle)

/-- The search ends at a free name, or has used up its fuel. -/
theorem free_or_firstFree_eq :
    candidateName namer.cluster role (namer.firstFree role fuel k) ∉ namer.issued
      ∨ namer.firstFree role fuel k = k + fuel := by
  induction fuel generalizing k with
  | zero => exact .inr rfl
  | succ fuel ih =>
    unfold firstFree
    split
    · rcases ih (k + 1) with hfree | hend
      · exact .inl hfree
      · exact .inr (by omega)
    · rename_i hfree
      exact .inl fun hmem => hfree (List.contains_iff_mem.mpr hmem)

/-- With fuel for every name that has been given, the search ends at a free name. -/
theorem firstFree_not_mem :
    candidateName namer.cluster role (namer.firstFree role namer.issued.length k)
      ∉ namer.issued := by
  rcases namer.free_or_firstFree_eq role namer.issued.length k with hfree | hend
  · exact hfree
  · -- All names before the last are taken, so they are all that have been given.
    intro hmem
    have hcount : namer.issued.length + 1 ≤ namer.issued.length := by
      refine le_length_of_taken namer.cluster role (k := k) fun j hle hlt => ?_
      by_cases hj : j = namer.firstFree role namer.issued.length k
      · rw [hj]
        exact hmem
      · have hbelow : j < namer.firstFree role namer.issued.length k := by omega
        exact namer.taken_of_lt_firstFree role namer.issued.length k hle hbelow
    exact Nat.not_succ_le_self _ hcount

end

/-! ### One call -/

section
variable (namer : Namer) (role : Role)

@[simp]
theorem cluster_name : (namer.name role).2.cluster = namer.cluster := rfl

theorem issued_name : (namer.name role).2.issued = (namer.name role).1 :: namer.issued := rfl

theorem count_name_of_ne {other : Role} (h : other ≠ role) :
    (namer.name role).2.count other = namer.count other := by
  have hlookup : (other == role) = false := beq_eq_false_iff_ne.mpr h
  show (List.lookup other ((role, _) :: namer.counts)).getD 0 = _
  rw [List.lookup_cons, hlookup]
  rfl

/-- A call counts on to the first number of the role whose name is free, and gives that
name. -/
theorem name_cases : ∃ k, namer.count role < k
    ∧ (namer.name role).1 = candidateName namer.cluster role.wire k
    ∧ (namer.name role).2.count role = k
    ∧ candidateName namer.cluster role.wire k ∉ namer.issued
    ∧ ∀ j, namer.count role < j → j < k →
        candidateName namer.cluster role.wire j ∈ namer.issued := by
  refine ⟨namer.firstFree role.wire namer.issued.length (namer.count role + 1), ?_, rfl, ?_, ?_, ?_⟩
  · exact namer.le_firstFree role.wire _ _
  · show (List.lookup role ((role, _) :: namer.counts)).getD 0 = _
    rw [List.lookup_cons_self]
    rfl
  · exact namer.firstFree_not_mem role.wire _
  · intro j hle hlt
    exact namer.taken_of_lt_firstFree role.wire _ _ hle hlt

end

/-! ### Any number of calls -/

/-- What a namer keeps over a number of calls. -/
structure Sound (namer : Namer) (calls : Nat) : Prop where
  distinct : namer.issued.Nodup
  length : namer.issued.length = calls
  taken : ∀ role j, 1 ≤ j → j ≤ namer.count role →
    candidateName namer.cluster role.wire j ∈ namer.issued

namespace Sound

variable {namer : Namer} {calls : Nat}

theorem new (cluster : String) : Sound (Namer.new cluster) 0 where
  distinct := .nil
  length := rfl
  taken := by
    intro role j hpos hle
    exact absurd (Nat.le_trans hpos hle) (Nat.not_succ_le_zero 0)

theorem name (h : Sound namer calls) (role : Role) : Sound (namer.name role).2 (calls + 1) := by
  obtain ⟨k, hlt, hname, hcount, hfree, hskipped⟩ := namer.name_cases role
  refine ⟨?_, ?_, ?_⟩
  · rw [issued_name, hname, List.nodup_cons]
    exact ⟨hfree, h.distinct⟩
  · rw [issued_name, List.length_cons, h.length]
  · intro other j hpos hle
    rw [issued_name, hname, cluster_name]
    by_cases hother : other = role
    · -- A number up to the new count was counted before, was skipped, or is the new one.
      subst hother
      rw [hcount] at hle
      rcases Nat.lt_or_eq_of_le hle with hbelow | rfl
      · by_cases hold : j ≤ namer.count other
        · exact List.mem_cons_of_mem _ (h.taken other j hpos hold)
        · exact List.mem_cons_of_mem _ (hskipped j (by omega) hbelow)
      · exact List.mem_cons_self
    · rw [count_name_of_ne namer role hother] at hle
      exact List.mem_cons_of_mem _ (h.taken other j hpos hle)

/-- No role has been counted further than there have been calls. -/
theorem count_le (h : Sound namer calls) (role : Role) : namer.count role ≤ calls := by
  rw [← h.length]
  refine le_length_of_taken namer.cluster role.wire (k := 1) fun j hpos hlt => ?_
  exact h.taken role j hpos (by omega)

end Sound

theorem nameAll_cons (namer : Namer) (role : Role) (roles : List Role) :
    namer.nameAll (role :: roles)
      = ((namer.name role).1 :: ((namer.name role).2.nameAll roles).1,
          ((namer.name role).2.nameAll roles).2) := rfl

section
variable (namer : Namer) (roles : List Role)

/-- The names that are given are added to those given before. -/
theorem issued_nameAll :
    (namer.nameAll roles).2.issued = (namer.nameAll roles).1.reverse ++ namer.issued := by
  induction roles generalizing namer with
  | nil => rfl
  | cons role roles ih =>
    rw [nameAll_cons, ih, issued_name, List.reverse_cons, List.append_assoc]
    rfl

end

namespace Sound

variable {namer : Namer} {calls : Nat}

theorem nameAll (h : Sound namer calls) (roles : List Role) :
    Sound (namer.nameAll roles).2 (calls + roles.length) := by
  induction roles generalizing namer calls with
  | nil => exact h
  | cons role roles ih =>
    have hrest := ih (h.name role)
    rw [nameAll_cons, List.length_cons, ← Nat.add_assoc, Nat.add_right_comm]
    exact hrest

/-- The names that are given are all different. -/
theorem nodup_nameAll (h : Sound namer calls) (roles : List Role) :
    (namer.nameAll roles).1.Nodup := by
  have hdistinct := (h.nameAll roles).distinct
  rw [issued_nameAll] at hdistinct
  exact List.nodup_reverse.mp (List.nodup_append.mp hdistinct).1

/-- The number in a name is at most the number of the call. -/
theorem exists_number (h : Sound namer calls) {roles : List Role} {index : Nat} {role : Role}
    (hrole : roles[index]? = some role) :
    ∃ k, 1 ≤ k ∧ k ≤ calls + index + 1
      ∧ (namer.nameAll roles).1[index]? = some (candidateName namer.cluster role.wire k) := by
  induction roles generalizing namer calls index with
  | nil => exact nomatch hrole
  | cons first roles ih =>
    rw [nameAll_cons]
    cases index with
    | zero =>
      -- The number is what the role has been counted to, so `count_le` is its bound.
      cases hrole
      obtain ⟨k, hlt, hname, hcount, -⟩ := namer.name_cases role
      have hle := (h.name role).count_le role
      rw [hcount] at hle
      exact ⟨k, by omega, by omega, congrArg some hname⟩
    | succ index =>
      obtain ⟨k, hpos, hle, hname⟩ := ih (h.name first) hrole
      exact ⟨k, hpos, by omega, hname⟩

end Sound

end Namer
end ClusterProvision
