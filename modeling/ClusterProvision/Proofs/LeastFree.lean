import ClusterProvision.Proofs.Naming

/-!
# `ClusterProvision.Proofs.LeastFree`: names without counting

A namer counts on for each role and never looks back. What it gives is still the name with the
least number that is free (`Namer.Sound.leastFree`): the names of a role up to its count have all
been given, to this role or to another one.

The least free number depends on nothing but the text of the role and the names given before. So
roles with the same text share their names, although a namer counts them apart
(`Namer.Sound.names_congr`).

`Namer.stateless_nameAll` puts this together for the calls of a new namer.
-/

set_option autoImplicit false

namespace ClusterProvision

/-! ### The least free number -/

/-- A number is the least one whose name, for a role with the given text, is not among the names
that have been given. -/
structure LeastFree (cluster role : String) (given : List String) (k : Nat) : Prop where
  pos : 1 ≤ k
  free : candidateName cluster role k ∉ given
  least : ∀ j, 1 ≤ j → j < k → candidateName cluster role j ∈ given

namespace LeastFree

variable {cluster role : String} {given others : List String} {j k : Nat}

theorem unique (hj : LeastFree cluster role given j) (hk : LeastFree cluster role given k) :
    j = k := by
  rcases Nat.lt_trichotomy j k with hlt | heq | hgt
  · exact absurd (hk.least j hj.pos hlt) hj.free
  · exact heq
  · exact absurd (hj.least k hk.pos hgt) hk.free

/-- The order in which names have been given does not matter. -/
theorem of_mem_iff (h : LeastFree cluster role given k)
    (hsame : ∀ name, name ∈ others ↔ name ∈ given) : LeastFree cluster role others k where
  pos := h.pos
  free := fun hmem => h.free ((hsame _).mp hmem)
  least := fun j hpos hlt => (hsame _).mpr (h.least j hpos hlt)

end LeastFree

/-! ### The names that a namer gives -/

namespace Namer
namespace Sound

variable {namer : Namer} {calls : Nat}

/-- A call gives the name with the least free number, wherever the role's count is. -/
theorem leastFree (h : Sound namer calls) (role : Role) :
    ∃ k, LeastFree namer.cluster role.wire namer.issued k
      ∧ (namer.name role).1 = candidateName namer.cluster role.wire k := by
  obtain ⟨k, hlt, hname, -, hfree, hskipped⟩ := namer.name_cases role
  refine ⟨k, ⟨Nat.lt_of_le_of_lt (Nat.zero_le _) hlt, hfree, fun j hpos hbelow => ?_⟩, hname⟩
  -- A number below was counted before, or the search has passed over it.
  by_cases hcounted : j ≤ namer.count role
  · exact h.taken role j hpos hcounted
  · exact hskipped j (Nat.lt_of_not_le hcounted) hbelow

/-- So does every call of a series, where the names that have been given are those of the calls
before it, too. -/
theorem leastFree_nameAll (h : Sound namer calls) {roles : List Role} {index : Nat} {role : Role}
    (hrole : roles[index]? = some role) :
    ∃ k, LeastFree namer.cluster role.wire
        ((namer.nameAll roles).1.take index ++ namer.issued) k
      ∧ (namer.nameAll roles).1[index]? = some (candidateName namer.cluster role.wire k) := by
  induction roles generalizing namer calls index with
  | nil => exact nomatch hrole
  | cons first roles ih =>
    rw [nameAll_cons]
    cases index with
    | zero =>
      cases hrole
      obtain ⟨k, hleast, hname⟩ := h.leastFree role
      exact ⟨k, hleast, congrArg some hname⟩
    | succ index =>
      obtain ⟨k, hleast, hname⟩ := ih (h.name first) hrole
      refine ⟨k, hleast.of_mem_iff fun name => ?_, hname⟩
      -- The first name counts as given either way.
      rw [List.take_succ_cons, issued_name]
      exact List.perm_middle.symm.mem_iff

/-- Two namers that have given the same names go on alike for roles with the same texts, however
far each of them has counted. -/
theorem names_congr {other : Namer} {otherCalls : Nat} (h : Sound namer calls)
    (hother : Sound other otherCalls) (hcluster : namer.cluster = other.cluster)
    (hissued : namer.issued = other.issued) {roles others : List Role}
    (hwire : roles.map Role.wire = others.map Role.wire) :
    (namer.nameAll roles).1 = (other.nameAll others).1 := by
  induction roles generalizing namer calls other otherCalls others with
  | nil =>
    rw [List.map_eq_nil_iff.mp hwire.symm]
    rfl
  | cons role roles ih =>
    obtain ⟨first, rest, rfl, hfirst, hrest⟩ := List.map_eq_cons_iff.mp hwire.symm
    have hname : (namer.name role).1 = (other.name first).1 := by
      obtain ⟨j, hj, hgiven⟩ := h.leastFree role
      obtain ⟨k, hk, hgivenOther⟩ := hother.leastFree first
      rw [hfirst, ← hcluster, ← hissued] at hk
      rw [hgiven, hgivenOther, hfirst, ← hcluster, hj.unique hk]
    have htail := ih (h.name role) (hother.name first) hcluster
      (by rw [issued_name, issued_name, hname, hissued]) hrest.symm
    rw [nameAll_cons, nameAll_cons, hname, htail]

end Sound

theorem length_nameAll (namer : Namer) (roles : List Role) :
    (namer.nameAll roles).1.length = roles.length := by
  induction roles generalizing namer with
  | nil => rfl
  | cons role roles ih => rw [nameAll_cons, List.length_cons, List.length_cons, ih]

/-- What the names of a new namer are, without its counts. -/
structure Stateless (cluster : String) (calls : List Role) (names : List String) : Prop where
  /-- Every call gives a name. -/
  length : names.length = calls.length
  /-- It is the role's name with the least number that no earlier call has used up. -/
  leastFree : ∀ index role, calls[index]? = some role →
    ∃ k, LeastFree cluster role.wire (names.take index) k
      ∧ names[index]? = some (candidateName cluster role.wire k)
  /-- Calls for other roles give the same names if those have the same texts. -/
  byText : ∀ others : List Role, others.map Role.wire = calls.map Role.wire →
    ((Namer.new cluster).nameAll others).1 = names

/-- A new namer names its nodes as if it did not count. -/
theorem stateless_nameAll (cluster : String) (calls : List Role) :
    Stateless cluster calls ((Namer.new cluster).nameAll calls).1 where
  length := length_nameAll _ calls
  leastFree := by
    intro index role hrole
    obtain ⟨k, hleast, hname⟩ := (Sound.new cluster).leastFree_nameAll hrole
    exact ⟨k, hleast.of_mem_iff fun name => by simp [Namer.new], hname⟩
  byText := fun _ hwire => (Sound.new cluster).names_congr (Sound.new cluster) rfl rfl hwire

/-- A worker, an unknown role with its text and one that its second name is the first of. -/
example : ((Namer.new "kind").nameAll
      [.worker, .unknown "worker2", .unknown "worker", .worker, .unknown "worker2"]).1
    = ["kind-worker", "kind-worker2", "kind-worker3", "kind-worker4", "kind-worker22"] := by decide

end Namer
end ClusterProvision
