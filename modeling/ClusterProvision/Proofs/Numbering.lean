import ClusterProvision.Proofs.Plan

/-!
# `ClusterProvision.Proofs.Numbering`: roles that do not lay claim to each other's names

A role can take a name away from another one only if its text is that of the other with digits
behind it (`Role.Extends`). Roles of which none extends another one are `Role.Separate`, and no
two of them lay claim to one name (`Role.Separate.candidateName_inj`). The four known roles are
of this kind (`Role.separate_known`). Roles that may also have the same text are
`Role.SeparateTexts`: no name belongs to two of their texts.

When all roles are separate, a namer counts each role by one at each call
(`Namer.Sequential.count_name`), whatever the other calls are. So the nodes of a role, taken out
of the plan, carry the role's first names in order (`Namer.Sequential.filter_nameAll`).
-/

set_option autoImplicit false

namespace ClusterProvision

/-! ### Names of different roles -/

namespace Role

/-- The text of a role is that of another one, or that with decimal digits behind it. -/
def Extends (role other : Role) : Prop :=
  ∃ digits : List Char, role.wire.toList = other.wire.toList ++ digits
    ∧ ∀ c ∈ digits, c.isDigit = true

theorem extends_iff (role other : Role) :
    role.Extends other ↔ other.wire.toList <+: role.wire.toList
      ∧ (role.wire.toList.drop other.wire.toList.length).all Char.isDigit = true := by
  rw [List.all_eq_true]
  constructor
  · rintro ⟨digits, hwire, hdigits⟩
    refine ⟨⟨digits, hwire.symm⟩, ?_⟩
    rw [hwire, List.drop_left]
    exact hdigits
  · rintro ⟨hstarts, hdigits⟩
    exact ⟨_, (List.prefix_iff_eq_append.mp hstarts).symm, hdigits⟩

instance (role other : Role) : Decidable (role.Extends other) :=
  decidable_of_iff' _ (extends_iff role other)

/-- Of some roles, none extends another one. -/
def Separate (roles : List Role) : Prop :=
  ∀ first ∈ roles, ∀ second ∈ roles, first ≠ second → ¬ first.Extends second

instance (roles : List Role) : Decidable (Separate roles) :=
  inferInstanceAs (Decidable (∀ first ∈ roles, ∀ second ∈ roles, _))

/-- The text of no role is that of another one with nothing but digits behind it. Roles with the
same text may be among them. -/
def SeparateTexts (roles : List Role) : Prop :=
  ∀ first ∈ roles, ∀ second ∈ roles, first.wire ≠ second.wire → ¬ first.Extends second

instance (roles : List Role) : Decidable (SeparateTexts roles) :=
  inferInstanceAs (Decidable (∀ first ∈ roles, ∀ second ∈ roles, _))

theorem Separate.texts {roles : List Role} (h : Separate roles) : SeparateTexts roles := by
  intro first hfirst second hsecond hne
  exact h first hfirst second hsecond fun hsame => hne (congrArg wire hsame)

theorem extends_of_wire_eq {role other : Role} (h : role.wire = other.wire) :
    role.Extends other :=
  ⟨[], by rw [h, List.append_nil], by simp⟩

/-- The known roles end in different words, none of them with a digit. -/
theorem separate_known : Separate known := by decide

theorem mem_known {role : Role} : role ∈ known ↔ role.isKnown = true := by
  cases role <;> simp [known, isKnown]

theorem Separate.subset {roles others : List Role} (h : Separate roles) (hsub : others ⊆ roles) :
    Separate others := by
  intro first hfirst second hsecond
  exact h first (hsub hfirst) second (hsub hsecond)

end Role

/-- A name is the cluster's and the role's, with digits behind them unless it is the first. -/
theorem toList_candidateName (cluster role : String) (k : Nat) :
    ∃ digits : List Char, (candidateName cluster role k).toList
        = (cluster ++ "-").toList ++ (role.toList ++ digits)
      ∧ ∀ c ∈ digits, c.isDigit = true := by
  unfold candidateName
  split
  · exact ⟨[], by simp, by simp⟩
  · refine ⟨k.repr.toList, by simp, ?_⟩
    intro c hc
    rw [Nat.toList_repr] at hc
    exact Nat.isDigit_of_mem_toDigits (by decide) (by decide) hc

/-- A name that two roles lay claim to makes one of them extend the other. -/
theorem extends_of_candidateName_eq {cluster : String} {first second : Role} {j k : Nat}
    (h : candidateName cluster first.wire j = candidateName cluster second.wire k) :
    first.Extends second ∨ second.Extends first := by
  obtain ⟨digits, hfirst, hdigits⟩ := toList_candidateName cluster first.wire j
  obtain ⟨others, hsecond, hothers⟩ := toList_candidateName cluster second.wire k
  rw [h, hsecond] at hfirst
  -- What one text has more than the other is a part of the digits behind the other.
  rcases List.append_eq_append_iff.mp (List.append_cancel_left hfirst)
    with ⟨more, hwire, hmore⟩ | ⟨more, hwire, hmore⟩
  · refine .inl ⟨more, hwire, ?_⟩
    intro c hc
    exact hothers c (by rw [hmore]; exact List.mem_append_left _ hc)
  · refine .inr ⟨more, hwire, ?_⟩
    intro c hc
    exact hdigits c (by rw [hmore]; exact List.mem_append_left _ hc)

section
variable {roles : List Role} {cluster : String} {first second : Role} {j k : Nat}
  (hfirst : first ∈ roles) (hsecond : second ∈ roles)
  (hname : candidateName cluster first.wire j = candidateName cluster second.wire k)
include hfirst hsecond hname

/-- A name belongs to one of the texts, and has one number there. -/
theorem Role.SeparateTexts.candidateName_inj (h : SeparateTexts roles) :
    first.wire = second.wire ∧ j = k := by
  have htexts : first.wire = second.wire := by
    by_contra hne
    rcases extends_of_candidateName_eq hname with hextends | hextends
    · exact h first hfirst second hsecond hne hextends
    · exact h second hsecond first hfirst (Ne.symm hne) hextends
  rw [htexts] at hname
  exact ⟨htexts, ClusterProvision.candidateName_inj hname⟩

/-- Separate roles do not lay claim to one name. -/
theorem Role.Separate.candidateName_inj (h : Separate roles) : first = second ∧ j = k := by
  obtain ⟨htexts, hnumbers⟩ := h.texts.candidateName_inj hfirst hsecond hname
  refine ⟨?_, hnumbers⟩
  by_contra hne
  exact h first hfirst second hsecond hne (extends_of_wire_eq htexts)

end

/-! ### Counting separate roles -/

namespace Namer

/-- The names given are the first names of some roles, as many as each has been counted. -/
def Sequential (roles : List Role) (namer : Namer) : Prop :=
  ∀ name ∈ namer.issued, ∃ role ∈ roles, ∃ k, k ≤ namer.count role
    ∧ name = candidateName namer.cluster role.wire k

namespace Sequential

variable {roles : List Role} {namer : Namer}

theorem new (cluster : String) : Sequential roles (Namer.new cluster) := by
  intro name hname
  exact nomatch hname

section
variable (h : Sequential roles namer) (hroles : Role.Separate roles) {role : Role}
  (hrole : role ∈ roles)
include h hroles hrole

/-- A role is counted by one. -/
theorem count_name : (namer.name role).2.count role = namer.count role + 1 := by
  obtain ⟨k, hlt, -, hcount, -, htaken⟩ := namer.name_cases role
  rw [hcount]
  rcases Nat.lt_or_eq_of_le (Nat.succ_le_of_lt hlt) with hskipped | hnext
  · -- Then the next name would be taken, and that by the role itself.
    obtain ⟨other, hother, j, hle, hname⟩ := h _ (htaken _ (Nat.lt_succ_self _) hskipped)
    obtain ⟨rfl, rfl⟩ := hroles.candidateName_inj hrole hother hname
    exact absurd hle (Nat.not_succ_le_self _)
  · exact hnext.symm

theorem fst_name :
    (namer.name role).1 = candidateName namer.cluster role.wire (namer.count role + 1) := by
  obtain ⟨k, -, hname, hcount, -⟩ := namer.name_cases role
  rw [hname, ← hcount, h.count_name hroles hrole]

theorem name : Sequential roles (namer.name role).2 := by
  intro name hname
  rw [issued_name, List.mem_cons] at hname
  rcases hname with rfl | hname
  · exact ⟨role, hrole, _, Nat.le_of_eq (h.count_name hroles hrole).symm,
      h.fst_name hroles hrole⟩
  · obtain ⟨other, hother, k, hle, rfl⟩ := h name hname
    refine ⟨other, hother, k, ?_, rfl⟩
    by_cases hsame : other = role
    · rw [hsame, h.count_name hroles hrole, ← hsame]
      exact Nat.le_succ_of_le hle
    · rw [count_name_of_ne namer role hsame]
      exact hle

end

end Sequential
end Namer

/-! ### The nodes of a role -/

namespace NodeSpec

/-- Nodes with names of their roles, numbered on from `k`. -/
def numbered (cluster : String) : Nat → List NodeSpec → List NodeSpec
  | _, [] => []
  | k, spec :: rest =>
    { spec with name := candidateName cluster spec.role.wire k } :: numbered cluster (k + 1) rest

theorem getElem?_numbered (cluster : String) (k : Nat) (specs : List NodeSpec) (place : Nat) :
    (numbered cluster k specs)[place]? = specs[place]?.map fun spec =>
      { spec with name := candidateName cluster spec.role.wire (k + place) } := by
  induction specs generalizing k place with
  | nil => rfl
  | cons spec specs ih =>
    cases place with
    | zero => rfl
    | succ place =>
      have hplace : k + 1 + place = k + (place + 1) := by omega
      simp only [numbered, List.getElem?_cons_succ, ih, hplace]

end NodeSpec

/-- Between nodes of other roles, a role gets its next names in order. -/
theorem Namer.Sequential.filter_nameAll {roles : List Role} {namer : Namer}
    (h : Sequential roles namer) (hroles : Role.Separate roles) {specs : List NodeSpec}
    (hspecs : ∀ spec ∈ specs, spec.role ∈ roles) (role : Role) :
    (NodeSpec.nameAll namer specs).filter (·.role = role)
      = NodeSpec.numbered namer.cluster (namer.count role + 1)
          (specs.filter (·.role = role)) := by
  induction specs generalizing namer with
  | nil => rfl
  | cons spec specs ih =>
    have hspec := hspecs spec List.mem_cons_self
    have hrest := ih (h.name hroles hspec) fun other hother =>
      hspecs other (List.mem_cons_of_mem _ hother)
    rw [NodeSpec.nameAll_cons]
    -- The first node takes the role's next number, or leaves its count as it is.
    by_cases hrole : spec.role = role
    · subst hrole
      rw [List.filter_cons_of_pos (by simp), List.filter_cons_of_pos (by simp), hrest,
        h.count_name hroles hspec, cluster_name, h.fst_name hroles hspec]
      rfl
    · rw [List.filter_cons_of_neg (by simp [hrole]), List.filter_cons_of_neg (by simp [hrole]),
        hrest, count_name_of_ne namer spec.role (Ne.symm hrole), cluster_name]

end ClusterProvision
