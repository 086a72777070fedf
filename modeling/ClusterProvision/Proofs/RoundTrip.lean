import ClusterProvision.Cluster.Load
import ClusterProvision.Schema.Encode
import Mathlib.Data.List.Forall2

/-!
# `ClusterProvision.Proofs.RoundTrip`: writing a cluster out and reading it again

Each part of a cluster is read back from its encoding, whatever the order of the keys in a table
(`decodeMount_of_same`, `decodeNode_of_same`, `decodeCluster_of_same`). A role comes back as the one
that its text stands for (`Role.canonical`). This is another one exactly for an unknown role with
the text of a known one, and no reading produces such a role (`canonical_of_decodeCluster`).

`Cluster.roundTrip` puts this together for clusters, and for the documents that they are written
to.
-/

set_option autoImplicit false

namespace ClusterProvision

/-! ### Canonical roles -/

namespace Role

/-- The role that the text of a role stands for. -/
def canonical (role : Role) : Role := ofWire role.wire

theorem ofWire_eq_unknown_iff (text : String) :
    ofWire text = .unknown text ↔ text ∉ known.map wire := by
  unfold ofWire
  repeat' split
  all_goals simp_all [known, wire]

/-- The roles that stay what they are: all but unknown ones with the text of a known one. -/
theorem canonical_eq_iff (role : Role) :
    role.canonical = role ↔ ∀ text, role = .unknown text → text ∉ known.map wire := by
  cases role with
  | unknown text =>
    refine (ofWire_eq_unknown_iff text).trans ⟨fun hother other hsame => ?_, fun h => h text rfl⟩
    cases hsame
    exact hother
  | _ => exact ⟨fun _ _ hother => (nomatch hother), fun _ => rfl⟩

end Role

/-- An entry with the role that its role's text stands for. -/
def NodeEntry.canonical (entry : NodeEntry) : NodeEntry :=
  { entry with role := entry.role.canonical }

/-- A cluster with the roles that its roles' texts stand for. -/
def Cluster.canonical (cluster : Cluster) : Cluster := ⟨cluster.nodes.map NodeEntry.canonical⟩

theorem Cluster.canonical_eq_iff (cluster : Cluster) :
    cluster.canonical = cluster ↔ ∀ entry ∈ cluster.nodes, entry.role.canonical = entry.role := by
  have hnodes : cluster.canonical = cluster
      ↔ cluster.nodes.map NodeEntry.canonical = cluster.nodes.map id := by
    rw [List.map_id, Cluster.canonical, Cluster.mk.injEq]
  rw [hnodes, List.map_inj_left]
  refine forall_congr' fun entry => forall_congr' fun _ => ?_
  constructor
  · exact congrArg NodeEntry.role
  · intro hrole
    rw [NodeEntry.canonical, hrole]
    rfl

/-! ### The order of keys -/

namespace Toml.Value

/-- Two values are the same up to the order of the keys in their tables. Lists are the same if their
items are, tables if they have the same under each key. -/
inductive Same : Value → Value → Prop
  | refl (v : Value) : Same v v
  | array {items others : List Value} (h : List.Forall₂ Same items others) :
    Same (.array items) (.array others)
  | table {entries others : List (String × Value)}
    (h : ∀ key, Option.Rel Same (Toml.entry? key entries) (Toml.entry? key others)) :
    Same (.table entries) (.table others)

namespace Same

theorem exists_table {v : Value} {others : List (String × Value)} (h : Same v (.table others)) :
    ∃ entries, v = .table entries
      ∧ ∀ key, Option.Rel Same (Toml.entry? key entries) (Toml.entry? key others) := by
  cases h with
  | refl =>
    refine ⟨others, rfl, fun key => ?_⟩
    cases Toml.entry? key others with
    | none => exact .none
    | some w => exact .some (.refl w)
  | table h => exact ⟨_, rfl, h⟩

theorem exists_array {v : Value} {others : List Value} (h : Same v (.array others)) :
    ∃ items, v = .array items ∧ List.Forall₂ Same items others := by
  cases h with
  | refl => exact ⟨others, rfl, List.forall₂_same.mpr fun w _ => .refl w⟩
  | array h => exact ⟨_, rfl, h⟩

end Same
end Toml.Value

open Toml (Value)
open Toml.Value (Same)

namespace Schema

section
variable {α : Type} {decodeItem : Value → Except Mismatch α}

/-- Items that can each be read are read as a list. -/
theorem decodeList_of_same {β : Type} {encodeItem : β → Value} {read : β → α}
    (hitem : ∀ item v, Same v (encodeItem item) → decodeItem v = .ok (read item))
    {items : List β} {v : Value} (h : Same v (.array (items.map encodeItem))) :
    decodeList decodeItem v = .ok (items.map read) := by
  obtain ⟨values, rfl, hvalues⟩ := h.exists_array
  clear h
  show values.mapM decodeItem = _
  induction items generalizing values with
  | nil =>
    cases hvalues
    rfl
  | cons item items ih =>
    rw [List.map_cons] at hvalues
    cases hvalues with
    | cons hfirst hrest =>
      rw [List.mapM_cons, hitem item _ hfirst, ih _ hrest]
      rfl

variable {entries others : List (String × Value)}
  (h : ∀ key, Option.Rel Same (Toml.entry? key entries) (Toml.entry? key others))
include h

/-- A field that a table has is read if its value can be. -/
theorem field?_of_some {key : String} {w : Value} (hkey : Toml.entry? key others = some w) {a : α}
    (hdecode : ∀ v, Same v w → decodeItem v = .ok a) :
    field? entries key decodeItem = .ok (some a) := by
  have hrel := h key
  rw [hkey] at hrel
  unfold field?
  generalize Toml.entry? key entries = found at hrel ⊢
  cases hrel with
  | some hsame =>
    show (do return some (← decodeItem _)) = _
    rw [hdecode _ hsame]
    rfl

/-- A field that a table does not have is not read. -/
theorem field?_of_none {key : String} (hkey : Toml.entry? key others = none) :
    field? entries key decodeItem = .ok none := by
  have hrel := h key
  rw [hkey] at hrel
  unfold field?
  generalize Toml.entry? key entries = found at hrel ⊢
  cases hrel
  rfl

end

/-! ### Reading what has been written -/

theorem decodeString_of_same {text : String} {v : Value} (h : Same v (.string text)) :
    decodeString v = .ok text := by
  cases h
  rfl

theorem decodeBool_of_same {b : Bool} {v : Value} (h : Same v (.boolean b)) :
    decodeBool v = .ok b := by
  cases h
  rfl

theorem decodeRole_of_same {role : Role} {v : Value} (h : Same v (.string role.wire)) :
    decodeRole v = .ok role.canonical := by
  cases h
  rfl

theorem decodePropagation_of_same {propagation : Propagation} {v : Value}
    (h : Same v (.string propagation.wire)) : decodePropagation v = .ok propagation := by
  cases h
  rw [decodePropagation, decodeMode, Propagation.ofWire?_wire]

/-- An integer of 32 bits fits wherever it is looked at. -/
theorem decodeInt32_of_same {n : Int32} {v : Value} (h : Same v (.integer n.toInt)) :
    decodeInt32 v = .ok n := by
  cases h
  have hlow := n.le_toInt
  have hhigh := n.toInt_lt
  have hfits : fitsSigned 32 n.toInt = true := by
    simp [fitsSigned]
    omega
  have hwide : fitsSigned 64 n.toInt = true := by
    simp [fitsSigned]
    omega
  simp [decodeInt32, hfits, hwide, Int32.ofInt_toInt]

theorem decodeMount_of_same {mount : Mount} {v : Value} (h : Same v (encodeMount mount)) :
    decodeMount v = .ok mount := by
  obtain ⟨entries, rfl, hentries⟩ := h.exists_table
  have hcontainerPath : field? entries "container_path" decodeString
      = .ok (some mount.containerPath) :=
    field?_of_some hentries (by simp [Toml.entry?]) fun _ => decodeString_of_same
  have hhostPath : field? entries "host_path" decodeString = .ok (some mount.hostPath) :=
    field?_of_some hentries (by simp [Toml.entry?, List.lookup_cons]) fun _ => decodeString_of_same
  have hreadOnly : field? entries "read_only" decodeBool = .ok (some mount.readOnly) :=
    field?_of_some hentries (by simp [Toml.entry?, List.lookup_cons]) fun _ => decodeBool_of_same
  have hselinuxRelabel : field? entries "selinux_relabel" decodeBool
      = .ok (some mount.selinuxRelabel) :=
    field?_of_some hentries (by simp [Toml.entry?, List.lookup_cons]) fun _ => decodeBool_of_same
  have hpropagation : field? entries "propagation" decodePropagation
      = .ok (some mount.propagation) :=
    field?_of_some hentries (by simp [Toml.entry?, List.lookup_cons]) fun _ =>
      decodePropagation_of_same
  show mountOfTable entries = _
  rw [mountOfTable, hcontainerPath, hhostPath, hreadOnly, hselinuxRelabel, hpropagation]
  rfl

theorem decodeNode_of_same {entry : NodeEntry} {v : Value} (h : Same v (encodeNode entry)) :
    decodeNode v = .ok entry.canonical := by
  obtain ⟨entries, rfl, hentries⟩ := h.exists_table
  have hrole : field? entries "role" decodeRole = .ok (some entry.role.canonical) :=
    field?_of_some hentries (by simp [Toml.entry?]) fun _ => decodeRole_of_same
  have himage : field? entries "image" decodeString = .ok (some entry.image) :=
    field?_of_some hentries (by simp [Toml.entry?, List.lookup_cons]) fun _ => decodeString_of_same
  -- What is left out is read as its default.
  have hmounts : ∃ mounts, field? entries "extra_mounts" (decodeList decodeMount) = .ok mounts
      ∧ mounts.getD [] = entry.mounts := by
    cases hempty : entry.mounts with
    | nil =>
      refine ⟨none, field?_of_none hentries ?_, rfl⟩
      cases entry.replicas <;> simp [Toml.entry?, List.lookup_cons, hempty]
    | cons mount mounts =>
      refine ⟨some ((mount :: mounts).map id), field?_of_some hentries ?_ fun _ hv =>
        decodeList_of_same (fun _ _ => decodeMount_of_same) hv, by simp⟩
      rw [← hempty]
      simp [Toml.entry?, List.lookup_cons, hempty]
  have hreplicas : field? entries "replicas" decodeInt32 = .ok entry.replicas := by
    cases hunset : entry.replicas with
    | none =>
      refine field?_of_none hentries ?_
      cases entry.mounts <;> simp [Toml.entry?, List.lookup_cons, hunset]
    | some n =>
      refine field?_of_some hentries ?_ fun _ => decodeInt32_of_same
      cases entry.mounts <;> simp [Toml.entry?, List.lookup_cons, hunset]
  obtain ⟨mounts, hmounts, hget⟩ := hmounts
  show nodeOfTable entries = _
  rw [nodeOfTable, hrole, himage, hmounts, hreplicas]
  rw [NodeEntry.canonical, ← hget]
  rfl

theorem decodeCluster_of_same {cluster : Cluster} {entries : List (String × Value)}
    (h : Same (.table entries) (.table (encodeCluster cluster))) :
    decodeCluster entries = .ok cluster.canonical := by
  obtain ⟨_, hsame, hentries⟩ := h.exists_table
  cases hsame
  have hnodes : field? entries "nodes" (decodeList decodeNode)
      = .ok (some (cluster.nodes.map NodeEntry.canonical)) :=
    field?_of_some hentries (by simp [Toml.entry?, encodeCluster]) fun _ hv =>
      decodeList_of_same (fun _ _ => decodeNode_of_same) hv
  rw [decodeCluster, hnodes]
  rfl

/-! ### What reading gives -/

section
variable {α β : Type}

theorem exists_of_bind_ok {x : Except Mismatch α} {more : α → Except Mismatch β} {b : β}
    (h : x >>= more = .ok b) : ∃ a, x = .ok a ∧ more a = .ok b := by
  cases x with
  | error cause => exact nomatch h
  | ok a => exact ⟨a, rfl, h⟩

/-- Each item of a list that has been read comes from a value. -/
theorem exists_of_mem_mapM {decodeItem : Value → Except Mismatch α} {values : List Value}
    {items : List α} (h : values.mapM decodeItem = .ok items) :
    ∀ item ∈ items, ∃ v, decodeItem v = .ok item := by
  induction values generalizing items with
  | nil =>
    cases h
    exact fun _ hitem => nomatch hitem
  | cons v values ih =>
    rw [List.mapM_cons] at h
    obtain ⟨first, hfirst, h⟩ := exists_of_bind_ok h
    obtain ⟨rest, hrest, h⟩ := exists_of_bind_ok h
    cases h
    intro item hitem
    rcases List.mem_cons.mp hitem with rfl | hitem
    · exact ⟨v, hfirst⟩
    · exact ih hrest item hitem

theorem exists_of_mem_decodeList {decodeItem : Value → Except Mismatch α} {v : Value}
    {items : List α} (h : decodeList decodeItem v = .ok items) :
    ∀ item ∈ items, ∃ w, decodeItem w = .ok item := by
  cases v with
  | array values => exact exists_of_mem_mapM h
  | _ =>
    obtain ⟨found, -, hnone⟩ := exists_of_bind_ok h
    exact nomatch hnone

/-- A field that has been read has a value. -/
theorem exists_of_field? {entries : List (String × Value)} {key : String}
    {decodeItem : Value → Except Mismatch α} {a : α}
    (h : field? entries key decodeItem = .ok (some a)) : ∃ v, decodeItem v = .ok a := by
  unfold field? at h
  cases hfound : Toml.entry? key entries with
  | none =>
    rw [hfound] at h
    exact nomatch h
  | some v =>
    rw [hfound] at h
    obtain ⟨b, hb, h⟩ :=
      exists_of_bind_ok (show decodeItem v >>= (fun b => .ok (some b)) = _ from h)
    cases h
    exact ⟨v, hb⟩

end

theorem canonical_of_decodeRole {v : Value} {role : Role} (h : decodeRole v = .ok role) :
    role.canonical = role := by
  obtain ⟨text, -, h⟩ := exists_of_bind_ok h
  cases h
  exact Role.canonical_ofWire text

/-- The role of an entry comes from a field of a table or from the first item of a list. -/
theorem canonical_of_decodeNode {v : Value} {entry : NodeEntry} (h : decodeNode v = .ok entry) :
    entry.role.canonical = entry.role := by
  have htable : ∀ entries, nodeOfTable entries = .ok entry → entry.role.canonical = entry.role := by
    intro entries h
    obtain ⟨mounts, -, h⟩ := exists_of_bind_ok h
    obtain ⟨image, -, h⟩ := exists_of_bind_ok h
    obtain ⟨replicas, -, h⟩ := exists_of_bind_ok h
    obtain ⟨role, hrole, h⟩ := exists_of_bind_ok h
    obtain ⟨given, hgiven, h⟩ := exists_of_bind_ok h
    obtain ⟨_, -, h⟩ := exists_of_bind_ok h
    cases h
    cases role with
    | none => exact nomatch hgiven
    | some role =>
      cases hgiven
      obtain ⟨v, hv⟩ := exists_of_field? hrole
      exact canonical_of_decodeRole hv
  cases v with
  | table entries => exact htable entries h
  | datetime text => exact htable [] h
  | array items =>
    obtain ⟨role, hrole, h⟩ := exists_of_bind_ok h
    obtain ⟨image, -, h⟩ := exists_of_bind_ok h
    obtain ⟨mounts, -, h⟩ := exists_of_bind_ok h
    obtain ⟨replicas, -, h⟩ := exists_of_bind_ok h
    cases h
    cases items with
    | nil => exact nomatch hrole
    | cons first rest => exact canonical_of_decodeRole hrole
  | _ =>
    obtain ⟨found, -, hnone⟩ := exists_of_bind_ok h
    exact nomatch hnone

/-- No reading gives an unknown role with the text of a known one. -/
theorem canonical_of_decodeCluster {entries : List (String × Value)} {cluster : Cluster}
    (h : decodeCluster entries = .ok cluster) :
    ∀ entry ∈ cluster.nodes, entry.role.canonical = entry.role := by
  obtain ⟨nodes, hnodes, h⟩ := exists_of_bind_ok h
  cases h
  cases nodes with
  | none => exact fun _ hentry => nomatch hentry
  | some nodes =>
    obtain ⟨v, hv⟩ := exists_of_field? hnodes
    intro entry hentry
    obtain ⟨w, hw⟩ := exists_of_mem_decodeList hv entry hentry
    exact canonical_of_decodeNode hw

end Schema

/-! ### Clusters and documents -/

namespace Cluster

/-- What becomes of a cluster that is written out and read again. -/
structure RoundTrip (cluster : Cluster) : Prop where
  /-- It comes back, with the roles that its roles' texts stand for. -/
  back : Schema.decodeCluster (Schema.encodeCluster cluster) = .ok cluster.canonical
  /-- So it comes back as it was unless it has an unknown role with the text of a known one. -/
  same_iff : Schema.decodeCluster (Schema.encodeCluster cluster) = .ok cluster
    ↔ ∀ entry ∈ cluster.nodes, ∀ text, entry.role = .unknown text →
      text ∉ Role.known.map Role.wire
  /-- A document says what has been written out if it says the same, in whatever order of keys. A
  cluster without entries gets the default one when a document is read. -/
  document : ∀ text entries, Toml.read? text = some entries →
    Same (.table entries) (.table (Schema.encodeCluster cluster)) →
    ofDocument text = .ok (if cluster.nodes = [] then
      ⟨[{ role := .controlPlane, image := defaultImage }]⟩ else cluster.canonical)
  /-- If the cluster has been read, from whatever values, its roles are canonical, and it comes back
  as it was. -/
  accepted : ∀ entries, Schema.decodeCluster entries = .ok cluster →
    (∀ entry ∈ cluster.nodes, entry.role.Canonical)
      ∧ Schema.decodeCluster (Schema.encodeCluster cluster) = .ok cluster
  /-- The roles of a cluster that a document describes are canonical, too. -/
  described : ∀ text, ofDocument text = .ok cluster →
    ∀ entry ∈ cluster.nodes, entry.role.Canonical

theorem canonical_of_ofDocument {text : String} {cluster : Cluster}
    (h : ofDocument text = .ok cluster) : ∀ entry ∈ cluster.nodes, entry.role.Canonical := by
  unfold ofDocument at h
  split at h
  · exact nomatch h
  split at h
  · exact nomatch h
  rename_i read hread
  cases h
  unfold withDefaults
  split
  · -- The default entry has a known role.
    intro entry hentry
    rw [List.mem_singleton.mp hentry]
    rfl
  · exact Schema.canonical_of_decodeCluster hread

/-- Clusters can be written out and read again. -/
theorem roundTrip (cluster : Cluster) : cluster.RoundTrip := by
  have hback : Schema.decodeCluster (Schema.encodeCluster cluster) = .ok cluster.canonical :=
    Schema.decodeCluster_of_same (.refl _)
  have hsame : Schema.decodeCluster (Schema.encodeCluster cluster) = .ok cluster
      ↔ ∀ entry ∈ cluster.nodes, entry.role.canonical = entry.role := by
    rw [hback, Except.ok.injEq]
    exact cluster.canonical_eq_iff
  refine { back := hback, same_iff := ?same_iff, document := ?document, accepted := ?accepted,
           described := fun _ => canonical_of_ofDocument }
  case same_iff =>
    rw [hsame]
    exact forall_congr' fun entry => forall_congr' fun _ => entry.role.canonical_eq_iff
  case document =>
    intro text entries hread hentries
    rw [ofDocument, hread]
    dsimp only
    rw [Schema.decodeCluster_of_same hentries]
    cases hnodes : cluster.nodes with
    | nil => simp [withDefaults, canonical, hnodes]
    | cons first rest => simp [withDefaults, canonical, hnodes]
  case accepted =>
    intro entries hread
    have hcanonical := Schema.canonical_of_decodeCluster hread
    exact ⟨hcanonical, hsame.mpr hcanonical⟩

/-- The keys of an entry in another order than that of their declaration. -/
example :
    Schema.decodeCluster
        [("nodes", .array [.table [("image", .string "node"), ("role", .string "worker")]])]
      = .ok ⟨[{ role := .worker, image := "node" }]⟩ := by rfl

/-- An unknown role with the text of a known one does not come back. -/
example :
    Schema.decodeCluster (Schema.encodeCluster ⟨[{ role := .unknown "worker", image := "node" }]⟩)
      = .ok ⟨[{ role := .worker, image := "node" }]⟩ := by rfl

end Cluster

end ClusterProvision
