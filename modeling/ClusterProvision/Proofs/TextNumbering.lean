import ClusterProvision.Proofs.LeastFree
import ClusterProvision.Proofs.Numbering

/-!
# `ClusterProvision.Proofs.TextNumbering`: names numbered by the text of the role

The documented names of a role are `<cluster>-<role>`, `<cluster>-<role>2`, `<cluster>-<role>3` and
so on, one for each call. A namer gives these names when no role lays claim to a name of another
one. Roles with one text share their names, so they count as one role here: what has to be kept
apart is the texts (`Role.SeparateTexts`).

`Namer.Tallied` is what a namer keeps then: it has given to each text its first names, as many as
there have been calls for the text. So the next name of a text is the first one that is free
(`Namer.Tallied.leastFree`), whatever the calls for other texts have been.
`Namer.numberedByText_nameAll` is what this comes to for the calls of a new namer.
-/

set_option autoImplicit false

namespace ClusterProvision

/-! ### Counting texts -/

namespace Role

/-- How many of some roles have a text. -/
def tally (roles : List Role) (text : String) : Nat := (roles.map wire).count text

theorem tally_append (roles others : List Role) (text : String) :
    tally (roles ++ others) text = tally roles text + tally others text := by
  rw [tally, List.map_append, List.count_append]
  rfl

theorem tally_singleton (role : Role) : tally [role] role.wire = 1 := by
  rw [tally, List.map_singleton, List.count_singleton_self]

theorem exists_of_tally_pos {roles : List Role} {text : String} (h : 0 < tally roles text) :
    ∃ role ∈ roles, role.wire = text :=
  List.mem_map.mp (List.count_pos_iff.mp h)

end Role

namespace Namer

/-- After calls for some roles, the names that have been given are the first names of each text, as
many as there have been calls for it. -/
def Tallied (past : List Role) (namer : Namer) : Prop :=
  ∀ name, name ∈ namer.issued ↔ ∃ text k, 1 ≤ k ∧ k ≤ Role.tally past text
    ∧ name = candidateName namer.cluster text k

namespace Tallied

theorem new (cluster : String) : Tallied [] (Namer.new cluster) := by
  intro name
  constructor
  · intro hname
    exact nomatch hname
  · rintro ⟨text, k, hpos, hle, -⟩
    exact absurd (Nat.le_trans hpos hle) (Nat.not_succ_le_zero 0)

section
variable {past : List Role} {namer : Namer} {role : Role} (h : Tallied past namer)
  (htexts : Role.SeparateTexts (past ++ [role]))
include h htexts

/-- The next name of a text is free, and those before it are not. -/
theorem leastFree :
    LeastFree namer.cluster role.wire namer.issued (Role.tally past role.wire + 1) where
  pos := Nat.le_add_left 1 _
  free := by
    intro htaken
    -- A name that has been given has one text and one number, and this number is not reached yet.
    obtain ⟨text, k, hpos, hle, hname⟩ := (h _).mp htaken
    obtain ⟨other, hother, rfl⟩ := Role.exists_of_tally_pos (Nat.lt_of_lt_of_le hpos hle)
    obtain ⟨hsame, hk⟩ := htexts.candidateName_inj List.mem_concat_self
      (List.mem_append_left _ hother) hname
    rw [← hsame] at hle
    omega
  least := by
    intro j hpos hlt
    exact (h _).mpr ⟨role.wire, j, hpos, Nat.le_of_lt_succ hlt, rfl⟩

variable {calls : Nat} (hsound : Sound namer calls)
include hsound

theorem fst_name : (namer.name role).1
    = candidateName namer.cluster role.wire (Role.tally past role.wire + 1) := by
  -- A namer gives the least number that is free, and there is only one such number.
  obtain ⟨k, hleast, hname⟩ := hsound.leastFree role
  rw [hname, hleast.unique (h.leastFree htexts)]

theorem name : Tallied (past ++ [role]) (namer.name role).2 := by
  intro name
  rw [issued_name, List.mem_cons, h name, cluster_name, h.fst_name htexts hsound]
  constructor
  · rintro (rfl | ⟨text, k, hpos, hle, rfl⟩)
    · refine ⟨role.wire, _, Nat.le_add_left 1 _, Nat.le_of_eq ?_, rfl⟩
      rw [Role.tally_append, Role.tally_singleton]
    · refine ⟨text, k, hpos, ?_, rfl⟩
      rw [Role.tally_append]
      exact Nat.le_add_right_of_le hle
  · rintro ⟨text, k, hpos, hle, rfl⟩
    rw [Role.tally_append] at hle
    -- A number that has not been counted before is the one that the call has given.
    by_cases hbefore : k ≤ Role.tally past text
    · exact .inr ⟨text, k, hpos, hbefore, rfl⟩
    · left
      have hlast : 0 < Role.tally [role] text := by omega
      obtain ⟨only, honly, rfl⟩ := Role.exists_of_tally_pos hlast
      rw [List.mem_singleton.mp honly] at hle hbefore ⊢
      rw [Role.tally_singleton] at hle
      rw [show k = Role.tally past role.wire + 1 by omega]

end

/-- Every call of a series gives the next name of its text. -/
theorem getElem?_nameAll {past : List Role} {namer : Namer} {calls : Nat}
    (h : Tallied past namer) (hsound : Sound namer calls) {roles : List Role}
    (htexts : Role.SeparateTexts (past ++ roles)) {index : Nat} {role : Role}
    (hrole : roles[index]? = some role) :
    (namer.nameAll roles).1[index]? = some (candidateName namer.cluster role.wire
      (Role.tally past role.wire + Role.tally (roles.take (index + 1)) role.wire)) := by
  -- What has been called for moves from the series to the past, one call at a time.
  induction roles generalizing past namer calls index with
  | nil => exact nomatch hrole
  | cons first roles ih =>
    rw [List.append_cons] at htexts
    have hfirst : Role.SeparateTexts (past ++ [first]) := fun one hone other hother =>
      htexts one (List.mem_append_left _ hone) other (List.mem_append_left _ hother)
    rw [nameAll_cons]
    cases index with
    | zero =>
      cases hrole
      rw [List.getElem?_cons_zero, h.fst_name hfirst hsound, List.take_succ_cons, List.take_zero,
        Role.tally_singleton]
    | succ index =>
      have hrest := ih (h.name hfirst hsound) (hsound.name first) htexts hrole
      rw [List.getElem?_cons_succ, hrest, cluster_name, Role.tally_append, Nat.add_assoc,
        ← Role.tally_append]
      rfl

end Tallied

/-! ### The names of a new namer -/

/-- The names that calls get when each text is numbered on its own. A call is the `j`-th one for its
text when `j` calls up to it, and with it, have been for that text. -/
structure NumberedByText (cluster : String) (calls : List Role) (names : List String) : Prop where
  /-- Every call gives a name. -/
  length : names.length = calls.length
  /-- The first call for a text gives the name without a number. -/
  first : ∀ (index : Nat) (role : Role), calls[index]? = some role →
    Role.tally (calls.take (index + 1)) role.wire = 1 →
      names[index]? = some (cluster ++ "-" ++ role.wire)
  /-- Each later one gives the name with its number. -/
  later : ∀ (index : Nat) (role : Role) (j : Nat), calls[index]? = some role →
    Role.tally (calls.take (index + 1)) role.wire = j → 2 ≤ j →
      names[index]? = some (cluster ++ "-" ++ role.wire ++ j.repr)

/-- When no text is another one with digits behind it, each text is numbered on its own, in whatever
order the calls come. -/
theorem numberedByText_nameAll (cluster : String) (calls : List Role)
    (htexts : Role.SeparateTexts calls) :
    NumberedByText cluster calls ((Namer.new cluster).nameAll calls).1 := by
  have hname : ∀ (index : Nat) (role : Role), calls[index]? = some role →
      ((Namer.new cluster).nameAll calls).1[index]?
        = some (candidateName cluster role.wire
            (Role.tally (calls.take (index + 1)) role.wire)) := by
    intro index role hrole
    rw [(Tallied.new cluster).getElem?_nameAll (Sound.new cluster) htexts hrole]
    simp [Role.tally, Namer.new]
  refine { length := length_nameAll _ calls, first := ?first, later := ?later }
  case first =>
    intro index role hrole hone
    rw [hname index role hrole, hone]
    rfl
  case later =>
    intro index role j hrole hj htwo
    rw [hname index role hrole, hj, candidateName, if_neg (by omega)]

/-- Roles with one text, texts that end in digits, and one that goes on with more than digits. -/
def mingled : List Role :=
  [.worker, .unknown "node7", .unknown "worker", .unknown "worker-2", .unknown "node7", .worker,
    .unknown "7", .controlPlane, .unknown "node7"]

theorem numberedByText_nameAll_mingled :
    Role.SeparateTexts mingled
      ∧ ((Namer.new "kind").nameAll mingled).1
        = ["kind-worker", "kind-node7", "kind-worker2", "kind-worker-2", "kind-node72",
            "kind-worker3", "kind-7", "kind-control-plane", "kind-node73"]
      ∧ NumberedByText "kind" mingled ((Namer.new "kind").nameAll mingled).1 := by
  have htexts : Role.SeparateTexts mingled := by decide
  exact ⟨htexts, by decide, numberedByText_nameAll "kind" mingled htexts⟩

end Namer
end ClusterProvision
