import ClusterProvision.Proofs.OrderedPlan
import Mathlib.Data.List.Induction
import Mathlib.Logic.Relation

/-!
# `ClusterProvision.Proofs.Buckets`: sorting nodes into buckets

Sorting nodes by role puts them into buckets, one for each listed role and one for all other roles.
The buckets of the listed roles come as these are first listed, the bucket of the others comes last,
and in each bucket the nodes stand as they came (`RoleOrder.sortBy_eq_buckets`). This is so for
every list of roles, however long: the listed roles rank at the places where they are first listed
(`RoleOrder.rank_of_mem`), so their ranks grow along the list without repeats
(`RoleOrder.rank_lt_eraseDups`) and stay below the rank that the other roles share.

So only the order in which the roles of the nodes are first listed counts
(`RoleOrder.buckets_congr`). A role that has been listed before can be crossed out, and a role that
no node has can be put in anywhere. `NodeSpec.bucketed_sort` states this for any number of such
changes.
-/

set_option autoImplicit false

namespace ClusterProvision

/-! ### Lists without repeats -/

section
variable {α : Type} [DecidableEq α]

/-- One more element is kept unless it has come before. -/
theorem eraseDups_append_singleton (xs : List α) (x : α) :
    (xs ++ [x]).eraseDups = if x ∈ xs then xs.eraseDups else xs.eraseDups ++ [x] := by
  rw [List.eraseDups_append]
  by_cases hx : x ∈ xs <;> simp [List.removeAll, List.eraseDups_cons, hx]

/-- An element that has come before makes no difference. -/
theorem eraseDups_of_repeat {before : List α} {x : α} (hx : x ∈ before) (after : List α) :
    (before ++ x :: after).eraseDups = (before ++ after).eraseDups := by
  rw [List.eraseDups_append, List.eraseDups_append]
  simp [List.removeAll, hx]

/-- The elements that are kept stand in the order of their first places. -/
theorem idxOf_lt_eraseDups (xs : List α) :
    xs.eraseDups.Pairwise fun x y => xs.idxOf x < xs.idxOf y := by
  -- From the end: the first place of an element does not depend on what comes behind it.
  induction xs using List.reverseRecOn with
  | nil => simp
  | append_singleton xs last ih =>
    have hkept : xs.eraseDups.Pairwise
        fun x y => (xs ++ [last]).idxOf x < (xs ++ [last]).idxOf y := by
      refine ih.imp_of_mem ?_
      intro x y hx hy hlt
      rwa [List.idxOf_append_of_mem (List.mem_eraseDups.mp hx),
        List.idxOf_append_of_mem (List.mem_eraseDups.mp hy)]
    rw [eraseDups_append_singleton]
    by_cases hlast : last ∈ xs
    · rwa [if_pos hlast]
    · rw [if_neg hlast]
      refine List.pairwise_append.mpr ⟨hkept, List.pairwise_singleton _ _, ?_⟩
      intro x hx y hy
      have hmem := List.mem_eraseDups.mp hx
      rw [List.mem_singleton.mp hy, List.idxOf_append_of_mem hmem, List.idxOf_append, if_neg hlast]
      have hplace := List.idxOf_lt_length_of_mem hmem
      omega

theorem nodup_eraseDups (xs : List α) : xs.eraseDups.Nodup := by
  refine (idxOf_lt_eraseDups xs).imp ?_
  rintro x y hlt rfl
  exact Nat.lt_irrefl _ hlt

/-- Repeats can be left out before or after some elements are chosen. -/
theorem filter_eraseDups (p : α → Bool) (xs : List α) :
    xs.eraseDups.filter p = (xs.filter p).eraseDups := by
  induction xs using List.reverseRecOn with
  | nil => simp
  | append_singleton xs last ih =>
    rw [eraseDups_append_singleton, List.filter_append]
    by_cases hlast : last ∈ xs <;> cases hp : p last <;>
      simp [eraseDups_append_singleton, hlast, hp, ih]

end

/-- Elements whose lists are empty can go. -/
theorem flatMap_filter_of_nil {α β : Type} {f : α → List β} {p : α → Bool}
    (h : ∀ x, p x = false → f x = []) (xs : List α) : (xs.filter p).flatMap f = xs.flatMap f := by
  induction xs with
  | nil => rfl
  | cons x xs ih =>
    cases hp : p x with
    | true => simp [hp, ih]
    | false => simp [hp, ih, h x hp]

/-! ### Ranks -/

namespace RoleOrder

/-- A listed role ranks at the place where it is first listed. -/
theorem rank_of_mem {order : RoleOrder} {role : Role} (h : role ∈ order.roles) :
    order.rank role = order.roles.idxOf role := by
  rw [List.idxOf_eq_getD_idxOf?, rank]
  cases hplace : order.roles.idxOf? role with
  | none => exact absurd h (List.idxOf?_eq_none_iff.mp hplace)
  | some place => rfl

/-- A role that ranks like a listed role is that role. -/
theorem rank_eq_iff {order : RoleOrder} {listed : Role} (h : listed ∈ order.roles) (role : Role) :
    order.rank role = order.rank listed ↔ role = listed := by
  refine ⟨?_, ?_⟩
  · intro hrank
    have hrole : role ∈ order.roles := by
      rw [← order.rank_lt_iff, hrank]
      exact (order.rank_lt_iff listed).mpr h
    rw [rank_of_mem hrole, rank_of_mem h] at hrank
    exact (List.idxOf_inj hrole).mp hrank
  · rintro rfl
    rfl

/-- The ranks grow along the list without its repeats. -/
theorem rank_lt_eraseDups (order : RoleOrder) :
    order.roles.eraseDups.Pairwise fun first second => order.rank first < order.rank second := by
  refine (idxOf_lt_eraseDups order.roles).imp_of_mem ?_
  intro first second hfirst hsecond hlt
  rwa [rank_of_mem (List.mem_eraseDups.mp hfirst), rank_of_mem (List.mem_eraseDups.mp hsecond)]

theorem filter_rank_eraseDups {order : RoleOrder} {listed : Role} (h : listed ∈ order.roles) :
    order.roles.eraseDups.filter (fun role => order.rank role = order.rank listed) = [listed] := by
  simp only [rank_eq_iff h]
  rw [List.filter_eq, List.count_eq_one_of_mem (nodup_eraseDups _) (List.mem_eraseDups.mpr h)]
  rfl

/-! ### Buckets -/

section
variable {α : Type} (role : α → Role)

/-- The things of each listed role, as the roles are first listed, and then all others. -/
def buckets (order : RoleOrder) (xs : List α) : List α :=
  (order.roles.eraseDups.flatMap fun listed => xs.filter fun x => role x = listed)
    ++ xs.filter fun x => role x ∉ order.roles

variable {role}

theorem rank_of_mem_bucket {order : RoleOrder} {xs : List α} {listed : Role} {x : α}
    (h : x ∈ xs.filter fun x => role x = listed) : order.rank (role x) = order.rank listed := by
  rw [of_decide_eq_true (List.mem_filter.mp h).2]

theorem rank_of_mem_last {order : RoleOrder} {xs : List α} {x : α}
    (h : x ∈ xs.filter fun x => role x ∉ order.roles) :
    order.rank (role x) = max unlistedRank order.roles.length :=
  rank_of_not_mem (of_decide_eq_true (List.mem_filter.mp h).2)

variable (role)

theorem sorted_buckets (order : RoleOrder) (xs : List α) :
    (buckets role order xs).Pairwise fun x y => order.rank (role x) ≤ order.rank (role y) := by
  refine List.pairwise_append.mpr ⟨List.pairwise_flatMap.mpr ⟨?_, ?_⟩, ?_, ?_⟩
  · -- Within the bucket of a listed role.
    intro listed _
    refine List.pairwise_of_forall_mem_list ?_
    intro x hx y hy
    exact Nat.le_of_eq ((rank_of_mem_bucket hx).trans (rank_of_mem_bucket hy).symm)
  · -- Between the buckets of two listed roles.
    refine order.rank_lt_eraseDups.imp ?_
    intro first second hlt x hx y hy
    rw [rank_of_mem_bucket hx, rank_of_mem_bucket hy]
    exact Nat.le_of_lt hlt
  · -- Within the last bucket, where all roles share one rank.
    refine List.pairwise_of_forall_mem_list ?_
    intro x hx y hy
    exact Nat.le_of_eq ((rank_of_mem_last hx).trans (rank_of_mem_last hy).symm)
  · -- Between the bucket of a listed role and the last one.
    intro x hx y hy
    obtain ⟨listed, hlisted, hx⟩ := List.mem_flatMap.mp hx
    rw [rank_of_mem_bucket hx, rank_of_mem_last hy]
    exact Nat.le_of_lt ((order.rank_lt_iff listed).mpr (List.mem_eraseDups.mp hlisted))

/-- Sorting by role is putting into buckets. -/
theorem sortBy_eq_buckets (order : RoleOrder) (xs : List α) :
    order.sortBy role xs = buckets role order xs := by
  refine sortOn_eq_of_sorted (sorted_buckets role order xs) ?_
  intro k
  have hwhole : ∀ listed, ∀ x ∈ xs.filter fun x => role x = listed,
      decide (order.rank (role x) = k) = decide (order.rank listed = k) := by
    intro listed x hx
    rw [rank_of_mem_bucket hx]
  rw [buckets, List.filter_append, filter_flatMap_of_whole hwhole]
  -- The things of one rank are one bucket: that of a listed role, or the last one.
  by_cases hk : ∃ listed ∈ order.roles, order.rank listed = k
  · obtain ⟨listed, hlisted, rfl⟩ := hk
    rw [filter_rank_eraseDups hlisted, filter_key_filter_eq_nil]
    · simp [rank_eq_iff hlisted]
    · intro x hrank
      rw [(rank_eq_iff hlisted _).mp hrank]
      simp [hlisted]
  · push Not at hk
    rw [filter_key_filter, List.filter_eq_nil_iff.mpr]
    · rfl
    · intro listed hlisted
      simp [hk listed (List.mem_eraseDups.mp hlisted)]
    · intro x hrank
      have hx : role x ∉ order.roles := by
        intro hmem
        exact hk _ hmem hrank
      simp [hx]

/-- The roles of things, in the order in which they are first listed. -/
def firsts (xs : List α) (roles : List Role) : List Role :=
  (roles.filter fun listed => xs.any fun x => role x = listed).eraseDups

theorem mem_firsts {xs : List α} {x : α} (hx : x ∈ xs) (roles : List Role) :
    role x ∈ firsts role xs roles ↔ role x ∈ roles := by
  have hused : (xs.any fun y => role y = role x) = true := List.any_eq_true.mpr ⟨x, hx, by simp⟩
  rw [firsts, List.mem_eraseDups, List.mem_filter, and_iff_left hused]

/-- Only the order in which the roles of the things are first listed counts. -/
theorem buckets_congr {first second : RoleOrder} {xs : List α}
    (h : firsts role xs first.roles = firsts role xs second.roles) :
    buckets role first xs = buckets role second xs := by
  have hfirsts : ∀ order : RoleOrder,
      (order.roles.eraseDups.flatMap fun listed => xs.filter fun x => role x = listed)
        = (firsts role xs order.roles).flatMap fun listed =>
            xs.filter fun x => role x = listed := by
    intro order
    rw [firsts, ← filter_eraseDups]
    refine (flatMap_filter_of_nil ?_ _).symm
    intro listed hlisted
    simpa using hlisted
  have hothers : (xs.filter fun x => role x ∉ first.roles)
      = xs.filter fun x => role x ∉ second.roles := by
    refine List.filter_congr ?_
    intro x hx
    have hsame : role x ∈ first.roles ↔ role x ∈ second.roles := by
      rw [← mem_firsts role hx first.roles, h, mem_firsts role hx]
    simp only [hsame]
  rw [buckets, buckets, hfirsts, hfirsts, h, hothers]

end

end RoleOrder

/-! ### Changes that do not show -/

namespace NodeSpec

/-- A change to the list of roles that does not show in how nodes are sorted. -/
inductive Unseen (specs : List NodeSpec) : List Role → List Role → Prop
  /-- A role that has been listed before is crossed out. -/
  | repeated (before after : List Role) (role : Role) (h : role ∈ before) :
    Unseen specs (before ++ role :: after) (before ++ after)
  /-- A role that no node has is put in. -/
  | idle (before after : List Role) (role : Role) (h : ∀ spec ∈ specs, spec.role ≠ role) :
    Unseen specs (before ++ after) (before ++ role :: after)

/-- Changes that do not show, one after another, made or taken back. -/
def Alike (specs : List NodeSpec) : List Role → List Role → Prop :=
  Relation.EqvGen (Unseen specs)

theorem Unseen.firsts_eq {specs : List NodeSpec} {roles others : List Role}
    (h : Unseen specs roles others) :
    RoleOrder.firsts NodeSpec.role specs roles = RoleOrder.firsts NodeSpec.role specs others := by
  unfold RoleOrder.firsts
  cases h with
  | repeated before after role hrole =>
    rw [← filter_eraseDups, eraseDups_of_repeat hrole, filter_eraseDups]
  | idle before after role hrole =>
    have hunused : (specs.any fun spec => spec.role = role) = false := by
      simpa using hrole
    simp [hunused]

theorem Alike.firsts_eq {specs : List NodeSpec} {roles others : List Role}
    (h : Alike specs roles others) :
    RoleOrder.firsts NodeSpec.role specs roles = RoleOrder.firsts NodeSpec.role specs others := by
  induction h with
  | rel _ _ hstep => exact hstep.firsts_eq
  | refl _ => rfl
  | symm _ _ _ ih => exact ih.symm
  | trans _ _ _ _ _ ih₁ ih₂ => exact ih₁.trans ih₂

/-- What nodes sorted by a list of roles are. -/
structure Bucketed (roles : List Role) (specs sorted : List NodeSpec) : Prop where
  /-- The nodes of each listed role stand together, as the roles are first listed, and the nodes of
  all other roles stand behind them. -/
  buckets : sorted = (roles.eraseDups.flatMap fun role => specs.filter (·.role = role))
    ++ specs.filter (·.role ∉ roles)
  /-- Crossing out repeats and putting in roles that no node has leaves them as they are. -/
  unmoved : ∀ others, Alike specs roles others → sort ⟨others⟩ specs = sorted

/-- Nodes are sorted into buckets, whatever roles are listed and however many. -/
theorem bucketed_sort (roles : List Role) (specs : List NodeSpec) :
    Bucketed roles specs (sort ⟨roles⟩ specs) where
  buckets := RoleOrder.sortBy_eq_buckets NodeSpec.role ⟨roles⟩ specs
  unmoved := by
    intro others halike
    have hsame : RoleOrder.buckets NodeSpec.role ⟨roles⟩ specs
        = RoleOrder.buckets NodeSpec.role ⟨others⟩ specs :=
      RoleOrder.buckets_congr NodeSpec.role halike.firsts_eq
    rw [sort, sort, RoleOrder.sortBy_eq_buckets, RoleOrder.sortBy_eq_buckets, hsame]

end NodeSpec
end ClusterProvision
