import ClusterProvision.Cluster.Load
import ClusterProvision.Proofs.RoundTrip
import Mathlib.Logic.Relation

/-!
# `ClusterProvision.Proofs.Spelling`: documents that say the same

A document can say one thing in many ways (`Liberty`): it can have keys that nobody looks at, write
out what goes without saying, write a table as the list of its fields, add items behind the last
one, and write a propagation mode as a table. Each of these is a step from one spelling to another,
at one place in the document (`DocumentStep`, by way of `NodeStep` and `MountStep`). Documents are
respellings of each other if any number of such steps, forth and back, leads from one to the other.

A step changes the value of a field of a record, if anything, to one that is read alike
(`TableStep.slot`, `ListStep.slot`). So the reading of each record agrees before and after the step
(`agrees_decodeMount`, `agrees_decodeNode`, `agrees_decodeCluster`). Only between a table and a list
can the error be another one, because their fields are looked at in different orders.

`Cluster.saidAlike_of_respelled` is what this comes to for clusters.
-/

set_option autoImplicit false

namespace ClusterProvision

open Toml (Value)

namespace Schema

/-! ### Spellings -/

/-- A liberty that a document can take. -/
inductive Liberty where
  /-- A table has a key that names no field, with any value. -/
  | strayKey
  /-- A field that may be left out is written out at its default. -/
  | writtenDefault
  /-- The fields of a table are written as a list, in the order of their declaration. -/
  | list
  /-- A list goes on after the last field. -/
  | surplusItem
  /-- A propagation mode is written as the only key of a table, with an empty table as its value. -/
  | modeTable
  deriving DecidableEq, Repr

/-- The fields of a record in the order of their declaration, with the defaults of those that may be
left out and whose default can be written. -/
abbrev Layout := List (String × Option Value)

/-- The names of the fields. -/
def Layout.names (layout : Layout) : List String := layout.map Prod.fst

/-- A step from one table to another, for a record with some layout. `inside` says what a step is
within the value of a field. -/
inductive TableStep (allowed : Liberty → Prop) (layout : Layout)
    (inside : String → Value → Value → Prop) :
    List (String × Value) → List (String × Value) → Prop
  | strayKey (hallowed : allowed .strayKey) (key : String) (hkey : key ∉ layout.names) (v : Value)
    (before after : List (String × Value)) :
    TableStep allowed layout inside (before ++ after) (before ++ (key, v) :: after)
  | writtenDefault (hallowed : allowed .writtenDefault) (key : String) (v : Value)
    (hfield : layout.lookup key = some (some v)) (before after : List (String × Value))
    (hunset : Toml.entry? key (before ++ after) = none) :
    TableStep allowed layout inside (before ++ after) (before ++ (key, v) :: after)
  | field (key : String) (v w : Value) (h : inside key v w)
    (before after : List (String × Value)) :
    TableStep allowed layout inside (before ++ (key, v) :: after) (before ++ (key, w) :: after)

/-- A step from one list of fields to another. -/
inductive ListStep (allowed : Liberty → Prop) (layout : Layout)
    (inside : String → Value → Value → Prop) : List Value → List Value → Prop
  | writtenDefault (hallowed : allowed .writtenDefault) (items : List Value) (key : String)
    (v : Value) (hnext : layout[items.length]? = some (key, some v)) :
    ListStep allowed layout inside items (items ++ [v])
  | surplusItem (hallowed : allowed .surplusItem) (items : List Value)
    (hfull : layout.length ≤ items.length) (v : Value) :
    ListStep allowed layout inside items (items ++ [v])
  | field (before : List Value) (key : String) (default : Option Value)
    (hplace : layout[before.length]? = some (key, default)) (v w : Value) (h : inside key v w)
    (after : List Value) :
    ListStep allowed layout inside (before ++ v :: after) (before ++ w :: after)

/-- A step from one spelling of a record to another. A list has the same fields as a table if it has
the same values at their places. -/
inductive RecordStep (allowed : Liberty → Prop) (layout : Layout)
    (inside : String → Value → Value → Prop) : Value → Value → Prop
  | table {entries others : List (String × Value)}
    (h : TableStep allowed layout inside entries others) :
    RecordStep allowed layout inside (.table entries) (.table others)
  | list {items others : List Value} (h : ListStep allowed layout inside items others) :
    RecordStep allowed layout inside (.array items) (.array others)
  | asList (hallowed : allowed .list) {entries : List (String × Value)} {items : List Value}
    (hfields : ∀ key ∈ layout.names,
      Toml.entry? key entries = Toml.entry? key (layout.names.zip items)) :
    RecordStep allowed layout inside (.table entries) (.array items)

/-- A step within one item of a list. -/
inductive ItemStep (inside : Value → Value → Prop) : Value → Value → Prop
  | item {v w : Value} (h : inside v w) (before after : List Value) :
    ItemStep inside (.array (before ++ v :: after)) (.array (before ++ w :: after))

/-- A step from one spelling of a propagation mode to another. -/
inductive ModeStep (allowed : Liberty → Prop) : Value → Value → Prop
  | table (hallowed : allowed .modeTable) (name : String) :
    ModeStep allowed (.string name) (.table [(name, .table [])])

/-- The fields of a mount. -/
def mountLayout : Layout :=
  [("container_path", none), ("host_path", none), ("read_only", some (.boolean false)),
    ("selinux_relabel", some (.boolean false)), ("propagation", some (.string "none"))]

/-- A step within a field of a mount. -/
inductive MountFieldStep (allowed : Liberty → Prop) : String → Value → Value → Prop
  | propagation {v w : Value} (h : ModeStep allowed v w) :
    MountFieldStep allowed "propagation" v w

/-- A step from one spelling of a mount to another. -/
def MountStep (allowed : Liberty → Prop) : Value → Value → Prop :=
  RecordStep allowed mountLayout (MountFieldStep allowed)

/-- The fields of a node entry. An unset replica count cannot be written. -/
def nodeLayout : Layout :=
  [("role", none), ("image", none), ("extra_mounts", some (.array [])), ("replicas", none)]

/-- A step within a field of a node entry. -/
inductive NodeFieldStep (allowed : Liberty → Prop) : String → Value → Value → Prop
  | mounts {v w : Value} (h : ItemStep (MountStep allowed) v w) :
    NodeFieldStep allowed "extra_mounts" v w

/-- A step from one spelling of a node entry to another. -/
def NodeStep (allowed : Liberty → Prop) : Value → Value → Prop :=
  RecordStep allowed nodeLayout (NodeFieldStep allowed)

/-- The fields of a document. -/
def documentLayout : Layout := [("nodes", some (.array []))]

/-- A step within a field of a document. -/
inductive DocumentFieldStep (allowed : Liberty → Prop) : String → Value → Value → Prop
  | nodes {v w : Value} (h : ItemStep (NodeStep allowed) v w) :
    DocumentFieldStep allowed "nodes" v w

/-- A step from one document to another. A document is always a table. -/
def DocumentStep (allowed : Liberty → Prop) :
    List (String × Value) → List (String × Value) → Prop :=
  TableStep allowed documentLayout (DocumentFieldStep allowed)

/-- Two documents are respellings of each other: some steps, forth and back, lead from the one to
the other, and they take no liberties but the allowed ones. -/
def Respelled (allowed : Liberty → Prop) :
    List (String × Value) → List (String × Value) → Prop :=
  Relation.EqvGen (DocumentStep allowed)

/-! ### Agreement -/

/-- Two readings agree: both succeed, with related results, or both fail. They fail alike unless
that is not asked for. -/
inductive Agrees {α β : Type} (loose : Prop) (related : α → β → Prop) :
    Except Mismatch α → Except Mismatch β → Prop
  | ok {a : α} {b : β} (h : related a b) : Agrees loose related (.ok a) (.ok b)
  | error {cause other : Mismatch} (h : cause = other ∨ loose) :
    Agrees loose related (.error cause) (.error other)

namespace Agrees

variable {α β γ δ : Type} {loose : Prop}

theorem refl (x : Except Mismatch α) : Agrees loose Eq x x := by
  cases x with
  | error cause => exact .error (.inl rfl)
  | ok a => exact .ok rfl

theorem symm {x y : Except Mismatch α} (h : Agrees loose Eq x y) : Agrees loose Eq y x := by
  cases h with
  | ok hsame => exact .ok hsame.symm
  | error hcause => exact .error (hcause.imp_left Eq.symm)

theorem trans {x y z : Except Mismatch α} (h : Agrees loose Eq x y) (h' : Agrees loose Eq y z) :
    Agrees loose Eq x z := by
  cases h with
  | ok hsame =>
    cases h' with
    | ok hsame' => exact .ok (hsame.trans hsame')
  | error hcause =>
    cases h' with
    | error hcause' =>
      rcases hcause with rfl | hloose
      · exact .error hcause'
      · exact .error (.inr hloose)

/-- Readings that begin alike and go on alike agree. -/
theorem bind {related : α → β → Prop} {other : γ → δ → Prop} {x : Except Mismatch α}
    {y : Except Mismatch β} {more : α → Except Mismatch γ} {more' : β → Except Mismatch δ}
    (h : Agrees loose related x y)
    (hmore : ∀ a b, related a b → Agrees loose other (more a) (more' b)) :
    Agrees loose other (x >>= more) (y >>= more') := by
  cases h with
  | ok hab => exact hmore _ _ hab
  | error hcause => exact .error hcause

/-- Readings that begin with the same can go on with it. -/
theorem bind_same {other : γ → δ → Prop} {x y : Except Mismatch α} {more : α → Except Mismatch γ}
    {more' : α → Except Mismatch δ} (h : Agrees loose Eq x y)
    (hmore : ∀ a, Agrees loose other (more a) (more' a)) :
    Agrees loose other (x >>= more) (y >>= more') := by
  refine h.bind fun a b hsame => ?_
  rw [hsame]
  exact hmore b

theorem imp {related other : α → β → Prop} {x : Except Mismatch α} {y : Except Mismatch β}
    (h : Agrees loose related x y) (himp : ∀ a b, related a b → other a b) :
    Agrees loose other x y := by
  cases h with
  | ok hab => exact .ok (himp _ _ hab)
  | error hcause => exact .error hcause

/-- When failing alike is not asked for, succeeding alike is all. -/
theorem of_ok_iff (hloose : loose) {x y : Except Mismatch α}
    (h : ∀ a, x = .ok a ↔ y = .ok a) : Agrees loose Eq x y := by
  cases x with
  | ok a =>
    rw [(h a).mp rfl]
    exact .ok rfl
  | error cause =>
    cases y with
    | ok a => exact nomatch (h a).mpr rfl
    | error other => exact .error (.inr hloose)

theorem ok_iff {x y : Except Mismatch α} (h : Agrees loose Eq x y) (a : α) :
    x = .ok a ↔ y = .ok a := by
  cases h with
  | ok hsame => rw [hsame]
  | error => exact iff_of_false nofun nofun

theorem eq_of_strict {x y : Except Mismatch α} (h : Agrees loose Eq x y) (hstrict : ¬ loose) :
    x = y := by
  cases h with
  | ok hsame => rw [hsame]
  | error hcause => rw [hcause.resolve_right hstrict]

end Agrees

/-! ### The values of a field -/

/-- What a step does to the value of one field, where the record may have none: nothing, or it
writes out the default, or it is a step within the value. -/
inductive SlotStep (default : Option Value) (inside : Value → Value → Prop) :
    Option Value → Option Value → Prop
  | same (slot : Option Value) : SlotStep default inside slot slot
  | written {v : Value} (h : default = some v) : SlotStep default inside none (some v)
  | field {v w : Value} (h : inside v w) : SlotStep default inside (some v) (some w)

section
variable {allowed : Liberty → Prop} {layout : Layout} {inside : String → Value → Value → Prop}

/-- A key that has not been there before does not hide other keys. -/
theorem entry?_insert_of_ne {key other : String} (h : key ≠ other) (v : Value)
    (before after : List (String × Value)) :
    Toml.entry? key (before ++ (other, v) :: after) = Toml.entry? key (before ++ after) := by
  have hne : (key == other) = false := beq_eq_false_iff_ne.mpr h
  simp only [Toml.entry?, List.lookup_append, List.lookup_cons, hne]

theorem entry?_insert_self (key : String) (v : Value) (before after : List (String × Value)) :
    Toml.entry? key (before ++ (key, v) :: after) = (Toml.entry? key before).or (some v) := by
  simp only [Toml.entry?, List.lookup_append, List.lookup_cons_self]

theorem Layout.mem_names {key : String} {default : Option Value}
    (h : layout.lookup key = some default) : key ∈ layout.names := by
  obtain ⟨before, after, rfl, -⟩ := List.lookup_eq_some_iff.mp h
  simp [names]

/-- A step from one table to another, seen from one field. -/
theorem TableStep.slot {entries others : List (String × Value)}
    (h : TableStep allowed layout inside entries others) {key : String} {default : Option Value}
    (hfield : layout.lookup key = some default) :
    SlotStep default (inside key) (Toml.entry? key entries) (Toml.entry? key others) := by
  cases h with
  | strayKey hallowed other hother v before after =>
    have hne : key ≠ other := fun hsame => hother (hsame ▸ Layout.mem_names hfield)
    rw [entry?_insert_of_ne hne]
    exact .same _
  | writtenDefault hallowed other v hwritten before after hunset =>
    by_cases hkey : key = other
    · subst hkey
      have hbefore : Toml.entry? key before = none := by
        rw [Toml.entry?, List.lookup_append] at hunset
        exact (Option.or_eq_none_iff.mp hunset).1
      rw [hunset, entry?_insert_self, hbefore]
      exact .written (Option.some.inj (hfield.symm.trans hwritten))
    · rw [entry?_insert_of_ne hkey]
      exact .same _
  | field other v w hinside before after =>
    by_cases hkey : key = other
    · subst hkey
      rw [entry?_insert_self, entry?_insert_self]
      cases Toml.entry? key before with
      | none => exact .field hinside
      | some first => exact .same _
    · rw [entry?_insert_of_ne hkey, entry?_insert_of_ne hkey]
      exact .same _

/-- A step from one list to another, seen from one place. -/
theorem ListStep.slot {items others : List Value} (h : ListStep allowed layout inside items others)
    {index : Nat} {key : String} {default : Option Value}
    (hfield : layout[index]? = some (key, default)) :
    SlotStep default (inside key) items[index]? others[index]? := by
  cases h with
  | writtenDefault hallowed items other v hnext =>
    rcases Nat.lt_trichotomy index items.length with hlt | rfl | hgt
    · rw [List.getElem?_append_left hlt]
      exact .same _
    · rw [hfield] at hnext
      cases hnext
      rw [List.getElem?_concat_length, List.getElem?_eq_none (Nat.le_refl _)]
      exact .written rfl
    · rw [List.getElem?_eq_none (Nat.le_of_lt hgt),
        List.getElem?_eq_none (by simpa using Nat.succ_le_of_lt hgt)]
      exact .same _
  | surplusItem hallowed items hfull v =>
    obtain ⟨hlt, -⟩ := List.getElem?_eq_some_iff.mp hfield
    rw [List.getElem?_append_left (Nat.lt_of_lt_of_le hlt hfull)]
    exact .same _
  | field before other otherDefault hplace v w hinside after =>
    rcases Nat.lt_trichotomy index before.length with hlt | rfl | hgt
    · rw [List.getElem?_append_left hlt, List.getElem?_append_left hlt]
      exact .same _
    · rw [hfield] at hplace
      cases hplace
      simp only [List.getElem?_append_right (Nat.le_refl _), Nat.sub_self, List.getElem?_cons_zero]
      exact .field hinside
    · obtain ⟨rest, hrest⟩ := Nat.exists_eq_add_of_lt hgt
      have hplaced : index - before.length = rest + 1 := by omega
      rw [List.getElem?_append_right (Nat.le_of_lt hgt), List.getElem?_append_right
        (Nat.le_of_lt hgt), hplaced, List.getElem?_cons_succ, List.getElem?_cons_succ]
      exact .same _

end

/-! ### Reading a field -/

section
variable {α : Type} {loose : Prop} {default : Option Value} {inside : Value → Value → Prop}
  {decodeField : Value → Except Mismatch α}
  (hinside : ∀ v w, inside v w → Agrees loose Eq (decodeField v) (decodeField w))
include hinside

/-- A field without a default. -/
theorem SlotStep.agrees_required {slot other : Option Value} (h : SlotStep none inside slot other) :
    Agrees loose Eq (slot.mapM decodeField) (other.mapM decodeField) := by
  cases h with
  | same => exact .refl _
  | written hnone => exact nomatch hnone
  | field hstep => exact (hinside _ _ hstep).bind_same fun _ => .refl _

/-- A field whose default can be written. -/
theorem SlotStep.agrees_optional {slot other : Option Value}
    (h : SlotStep default inside slot other) {value : α}
    (hdefault : ∀ v, default = some v → decodeField v = .ok value) :
    Agrees loose (fun a b : Option α => a.getD value = b.getD value) (slot.mapM decodeField)
      (other.mapM decodeField) := by
  cases h with
  | same => exact (Agrees.refl _).imp fun _ _ hab => by rw [hab]
  | @written v hwritten =>
    show Agrees loose _ (.ok none) (do return some (← decodeField v))
    rw [hdefault v hwritten]
    exact .ok rfl
  | field hstep =>
    refine (hinside _ _ hstep).bind fun a b hab => ?_
    rw [hab]
    exact .ok rfl

/-- A field at a place that a list must have. -/
theorem agrees_requiredItem {items others : List Value} {index : Nat}
    (h : SlotStep none inside items[index]? others[index]?) (expected : Expected) :
    Agrees loose Eq (requiredItem items index expected decodeField)
      (requiredItem others index expected decodeField) := by
  unfold requiredItem
  generalize items[index]? = slot at h ⊢
  generalize others[index]? = other at h ⊢
  cases h with
  | same => exact .refl _
  | written hnone => exact nomatch hnone
  | field hstep => exact hinside _ _ hstep

/-- A list that a step changes in one item. -/
theorem agrees_decodeList {v w : Value} (h : ItemStep inside v w) :
    Agrees loose Eq (decodeList decodeField v) (decodeList decodeField w) := by
  cases h with
  | @item v w hstep before after =>
    show Agrees loose Eq ((before ++ v :: after).mapM decodeField)
      ((before ++ w :: after).mapM decodeField)
    induction before with
    | nil =>
      rw [List.nil_append, List.nil_append, List.mapM_cons, List.mapM_cons]
      exact (hinside _ _ hstep).bind_same fun _ => .refl _
    | cons first before ih =>
      rw [List.cons_append, List.cons_append, List.mapM_cons, List.mapM_cons]
      exact (Agrees.refl _).bind_same fun _ => ih.bind_same fun _ => .refl _

end

/-! ### Lists of fields -/

section
variable {α β : Type}

theorem bind_eq_ok_iff {x : Except Mismatch α} {more : α → Except Mismatch β} {b : β} :
    x >>= more = .ok b ↔ ∃ a, x = .ok a ∧ more a = .ok b := by
  refine ⟨exists_of_bind_ok, ?_⟩
  rintro ⟨a, rfl, hb⟩
  exact hb

theorem required_eq_ok_iff {name : String} {slot : Option α} {a : α} :
    required name slot = .ok a ↔ slot = some a := by
  cases slot with
  | none => exact iff_of_false nofun nofun
  | some b => exact Except.ok.injEq b a ▸ (Option.some.injEq b a ▸ Iff.rfl)

theorem requiredItem_eq_ok_iff {items : List Value} {index : Nat} {expected : Expected}
    {decodeField : Value → Except Mismatch α} {a : α} :
    requiredItem items index expected decodeField = .ok a
      ↔ item? items index decodeField = .ok (some a) := by
  unfold requiredItem item?
  cases items[index]? with
  | none => exact iff_of_false nofun nofun
  | some v =>
    show decodeField v = .ok a ↔ (do return some (← decodeField v)) = .ok (some a)
    cases decodeField v with
    | error cause => exact iff_of_false nofun nofun
    | ok b =>
      show Except.ok b = .ok a ↔ Except.ok (some b) = .ok (some a)
      simp

/-- The value of a field in a list is the one at its place. -/
theorem entry?_zip {keys : List String} (hkeys : keys.Nodup) {index : Nat} {key : String}
    (hkey : keys[index]? = some key) (items : List Value) :
    Toml.entry? key (keys.zip items) = items[index]? := by
  induction keys generalizing index items with
  | nil => exact nomatch hkey
  | cons first keys ih =>
    obtain ⟨hfirst, hrest⟩ := List.nodup_cons.mp hkeys
    cases items with
    | nil => rfl
    | cons v items =>
      cases index with
      | zero =>
        cases hkey
        exact List.lookup_cons_self
      | succ index =>
        rw [List.getElem?_cons_succ] at hkey ⊢
        have hne : (key == first) = false :=
          beq_eq_false_iff_ne.mpr fun hsame => hfirst (hsame ▸ List.mem_of_getElem? hkey)
        rw [← ih hrest hkey items, List.zip_cons_cons, Toml.entry?, List.lookup_cons, hne]
        rfl

/-- A field of a table is read like the item at its place in a list with the same fields. -/
theorem field?_eq_item? {keys : List String} (hkeys : keys.Nodup)
    {entries : List (String × Value)} {items : List Value}
    (hfields : ∀ key ∈ keys, Toml.entry? key entries = Toml.entry? key (keys.zip items))
    {index : Nat} {key : String} (hkey : keys[index]? = some key)
    (decodeField : Value → Except Mismatch α) :
    field? entries key decodeField = item? items index decodeField := by
  rw [field?, hfields key (List.mem_of_getElem? hkey), entry?_zip hkeys hkey, item?]

end

/-! ### Mounts -/

section
variable {allowed : Liberty → Prop}

theorem decodePropagation_modeTable (name : String) :
    decodePropagation (.table [(name, .table [])]) = decodePropagation (.string name) := by
  show (decodeMode name >>= fun mode => pure mode) = decodeMode name
  cases decodeMode name <;> rfl

theorem agrees_decodePropagation {loose : Prop} {v w : Value} (h : ModeStep allowed v w) :
    Agrees loose Eq (decodePropagation v) (decodePropagation w) := by
  cases h with
  | table hallowed name =>
    rw [decodePropagation_modeTable]
    exact .refl _

/-- A step within a field of a mount is a step within its propagation mode, so that other fields
are read alike in any case. -/
theorem MountFieldStep.agrees_of_ne {loose : Prop} {α : Type} {key : String}
    {decodeField : Value → Except Mismatch α} (hkey : key ≠ "propagation") (v w : Value)
    (h : MountFieldStep allowed key v w) : Agrees loose Eq (decodeField v) (decodeField w) := by
  cases h with
  | propagation => exact absurd rfl hkey

section
variable {loose : Prop} {slot other : Option Value}

theorem agrees_flag {key : String} (hkey : key ≠ "propagation")
    (h : SlotStep (some (.boolean false)) (MountFieldStep allowed key) slot other) :
    Agrees loose (fun a b => a.getD false = b.getD false) (slot.mapM decodeBool)
      (other.mapM decodeBool) := by
  refine h.agrees_optional (MountFieldStep.agrees_of_ne hkey) fun v hv => ?_
  cases hv
  rfl

theorem agrees_propagation
    (h : SlotStep (some (.string "none")) (MountFieldStep allowed "propagation") slot other) :
    Agrees loose (fun a b => a.getD .none = b.getD .none) (slot.mapM decodePropagation)
      (other.mapM decodePropagation) := by
  refine h.agrees_optional (fun v w hstep => ?_) fun v hv => ?_
  · cases hstep with
    | propagation hmode => exact agrees_decodePropagation hmode
  · cases hv
    rfl

end

theorem agrees_mountOfTable {loose : Prop} {entries others : List (String × Value)}
    (h : TableStep allowed mountLayout (MountFieldStep allowed) entries others) :
    Agrees loose Eq (mountOfTable entries) (mountOfTable others) := by
  unfold mountOfTable field?
  refine ((h.slot rfl).agrees_required (MountFieldStep.agrees_of_ne (by decide))).bind_same
    fun containerPath => ?_
  refine ((h.slot rfl).agrees_required (MountFieldStep.agrees_of_ne (by decide))).bind_same
    fun hostPath => ?_
  refine (agrees_propagation (h.slot rfl)).bind fun propagation propagation' hmode => ?_
  refine (agrees_flag (by decide) (h.slot rfl)).bind fun readOnly readOnly' hread => ?_
  refine (agrees_flag (by decide) (h.slot rfl)).bind fun selinuxRelabel selinuxRelabel' hlabel => ?_
  rw [hmode, hread, hlabel]
  exact .refl _

theorem agrees_mountOfList {loose : Prop} {items others : List Value}
    (h : ListStep allowed mountLayout (MountFieldStep allowed) items others) :
    Agrees loose Eq (mountOfList items) (mountOfList others) := by
  unfold mountOfList item?
  refine (agrees_requiredItem (MountFieldStep.agrees_of_ne (by decide)) (h.slot rfl) _).bind_same
    fun containerPath => ?_
  refine (agrees_requiredItem (MountFieldStep.agrees_of_ne (by decide)) (h.slot rfl) _).bind_same
    fun hostPath => ?_
  refine (agrees_flag (by decide) (h.slot rfl)).bind fun readOnly readOnly' hread => ?_
  refine (agrees_flag (by decide) (h.slot rfl)).bind fun selinuxRelabel selinuxRelabel' hlabel => ?_
  refine (agrees_propagation (h.slot rfl)).bind fun propagation propagation' hmode => ?_
  rw [hmode, hread, hlabel]
  exact .refl _

/-- A table and a list with the same fields are the same mount. -/
theorem mountOfTable_ok_iff {entries : List (String × Value)} {items : List Value}
    (hfields : ∀ key ∈ mountLayout.names,
      Toml.entry? key entries = Toml.entry? key (mountLayout.names.zip items)) (mount : Mount) :
    mountOfTable entries = .ok mount ↔ mountOfList items = .ok mount := by
  have hfield {α : Type} (index : Nat) (key : String)
      (hkey : mountLayout.names[index]? = some key) (decodeField : Value → Except Mismatch α) :
      field? entries key decodeField = item? items index decodeField :=
    field?_eq_item? (by decide) hfields hkey decodeField
  unfold mountOfTable mountOfList
  rw [hfield 0 "container_path" rfl, hfield 1 "host_path" rfl, hfield 2 "read_only" rfl,
    hfield 3 "selinux_relabel" rfl, hfield 4 "propagation" rfl]
  simp only [bind_eq_ok_iff, required_eq_ok_iff, requiredItem_eq_ok_iff]
  constructor
  · rintro ⟨_, hcontainerPath, _, hhostPath, propagation, hpropagation, readOnly, hreadOnly,
      selinuxRelabel, hselinuxRelabel, containerPath, rfl, hostPath, rfl, hmount⟩
    exact ⟨containerPath, hcontainerPath, hostPath, hhostPath, readOnly, hreadOnly,
      selinuxRelabel, hselinuxRelabel, propagation, hpropagation, hmount⟩
  · rintro ⟨containerPath, hcontainerPath, hostPath, hhostPath, readOnly, hreadOnly,
      selinuxRelabel, hselinuxRelabel, propagation, hpropagation, hmount⟩
    exact ⟨_, hcontainerPath, _, hhostPath, propagation, hpropagation, readOnly, hreadOnly,
      selinuxRelabel, hselinuxRelabel, containerPath, rfl, hostPath, rfl, hmount⟩

theorem agrees_decodeMount {v w : Value} (h : MountStep allowed v w) :
    Agrees (allowed .list) Eq (decodeMount v) (decodeMount w) := by
  cases h with
  | table hstep => exact agrees_mountOfTable hstep
  | list hstep => exact agrees_mountOfList hstep
  | asList hallowed hfields => exact .of_ok_iff hallowed (mountOfTable_ok_iff hfields)

end

/-! ### Node entries -/

section
variable {allowed : Liberty → Prop}

/-- A step within a field of a node entry is a step within its mounts, so that other fields are read
alike in any case. -/
theorem NodeFieldStep.agrees_of_ne {loose : Prop} {α : Type} {key : String}
    {decodeField : Value → Except Mismatch α} (hkey : key ≠ "extra_mounts") (v w : Value)
    (h : NodeFieldStep allowed key v w) : Agrees loose Eq (decodeField v) (decodeField w) := by
  cases h with
  | mounts => exact absurd rfl hkey

theorem agrees_mounts {slot other : Option Value}
    (h : SlotStep (some (.array [])) (NodeFieldStep allowed "extra_mounts") slot other) :
    Agrees (allowed .list) (fun a b => a.getD [] = b.getD [])
      (slot.mapM (decodeList decodeMount)) (other.mapM (decodeList decodeMount)) := by
  refine h.agrees_optional (fun v w hstep => ?_) fun v hv => ?_
  · cases hstep with
    | mounts hmount => exact agrees_decodeList (fun _ _ => agrees_decodeMount) hmount
  · cases hv
    rfl

theorem agrees_nodeOfTable {entries others : List (String × Value)}
    (h : TableStep allowed nodeLayout (NodeFieldStep allowed) entries others) :
    Agrees (allowed .list) Eq (nodeOfTable entries) (nodeOfTable others) := by
  unfold nodeOfTable field?
  refine (agrees_mounts (h.slot rfl)).bind fun mounts mounts' hmounts => ?_
  refine ((h.slot rfl).agrees_required (NodeFieldStep.agrees_of_ne (by decide))).bind_same
    fun image => ?_
  refine ((h.slot rfl).agrees_required (NodeFieldStep.agrees_of_ne (by decide))).bind_same
    fun replicas => ?_
  refine ((h.slot rfl).agrees_required (NodeFieldStep.agrees_of_ne (by decide))).bind_same
    fun role => ?_
  rw [hmounts]
  exact .refl _

theorem agrees_nodeOfList {items others : List Value}
    (h : ListStep allowed nodeLayout (NodeFieldStep allowed) items others) :
    Agrees (allowed .list) Eq (nodeOfList items) (nodeOfList others) := by
  unfold nodeOfList item?
  refine (agrees_requiredItem (NodeFieldStep.agrees_of_ne (by decide)) (h.slot rfl) _).bind_same
    fun role => ?_
  refine (agrees_requiredItem (NodeFieldStep.agrees_of_ne (by decide)) (h.slot rfl) _).bind_same
    fun image => ?_
  refine (agrees_mounts (h.slot rfl)).bind fun mounts mounts' hmounts => ?_
  refine ((h.slot rfl).agrees_required (NodeFieldStep.agrees_of_ne (by decide))).bind_same
    fun replicas => ?_
  rw [hmounts]
  exact .refl _

/-- A table and a list with the same fields are the same node entry. -/
theorem nodeOfTable_ok_iff {entries : List (String × Value)} {items : List Value}
    (hfields : ∀ key ∈ nodeLayout.names,
      Toml.entry? key entries = Toml.entry? key (nodeLayout.names.zip items)) (entry : NodeEntry) :
    nodeOfTable entries = .ok entry ↔ nodeOfList items = .ok entry := by
  have hfield {α : Type} (index : Nat) (key : String)
      (hkey : nodeLayout.names[index]? = some key) (decodeField : Value → Except Mismatch α) :
      field? entries key decodeField = item? items index decodeField :=
    field?_eq_item? (by decide) hfields hkey decodeField
  unfold nodeOfTable nodeOfList
  rw [hfield 0 "role" rfl, hfield 1 "image" rfl, hfield 2 "extra_mounts" rfl,
    hfield 3 "replicas" rfl]
  simp only [bind_eq_ok_iff, required_eq_ok_iff, requiredItem_eq_ok_iff]
  constructor
  · rintro ⟨mounts, hmounts, _, himage, replicas, hreplicas, _, hrole, role, rfl, image, rfl,
      hentry⟩
    exact ⟨role, hrole, image, himage, mounts, hmounts, replicas, hreplicas, hentry⟩
  · rintro ⟨role, hrole, image, himage, mounts, hmounts, replicas, hreplicas, hentry⟩
    exact ⟨mounts, hmounts, _, himage, replicas, hreplicas, _, hrole, role, rfl, image, rfl,
      hentry⟩

theorem agrees_decodeNode {v w : Value} (h : NodeStep allowed v w) :
    Agrees (allowed .list) Eq (decodeNode v) (decodeNode w) := by
  cases h with
  | table hstep => exact agrees_nodeOfTable hstep
  | list hstep => exact agrees_nodeOfList hstep
  | asList hallowed hfields => exact .of_ok_iff hallowed (nodeOfTable_ok_iff hfields)

end

/-! ### Documents -/

section
variable {allowed : Liberty → Prop} {entries others : List (String × Value)}

theorem agrees_decodeCluster (h : DocumentStep allowed entries others) :
    Agrees (allowed .list) Eq (decodeCluster entries) (decodeCluster others) := by
  have hnodes : Agrees (allowed .list) (fun a b => a.getD [] = b.getD [])
      (field? entries "nodes" (decodeList decodeNode))
      (field? others "nodes" (decodeList decodeNode)) := by
    refine (TableStep.slot h rfl).agrees_optional (fun v w hstep => ?_) fun v hv => ?_
    · cases hstep with
      | nodes hnode => exact agrees_decodeList (fun _ _ => agrees_decodeNode) hnode
    · cases hv
      rfl
  refine hnodes.bind fun nodes nodes' hsame => ?_
  rw [hsame]
  exact .refl _

/-- Respellings are read alike: the steps are taken one after the other. -/
theorem Respelled.agrees (h : Respelled allowed entries others) :
    Agrees (allowed .list) Eq (decodeCluster entries) (decodeCluster others) := by
  induction h with
  | rel _ _ hstep => exact agrees_decodeCluster hstep
  | refl _ => exact .refl _
  | symm _ _ _ ih => exact ih.symm
  | trans _ _ _ _ _ ih ih' => exact ih.trans ih'

end

end Schema

namespace Cluster

open Schema

/-- Two documents say the same about a cluster. -/
structure SaidAlike (allowed : Liberty → Prop) (entries others : List (String × Value)) :
    Prop where
  /-- If one of them is read as a cluster, the other one is read as the same cluster. -/
  decoded : ∀ cluster,
    Schema.decodeCluster entries = .ok cluster ↔ Schema.decodeCluster others = .ok cluster
  /-- If no table is written as a list, or a list as a table, the error is the same, too. -/
  strict : ¬ allowed .list → Schema.decodeCluster entries = Schema.decodeCluster others
  /-- So it is for the texts of the documents. -/
  document : ∀ text text', Toml.read? text = some entries → Toml.read? text' = some others →
    (∀ cluster, ofDocument text = .ok cluster ↔ ofDocument text' = .ok cluster)
      ∧ (¬ allowed .list → ofDocument text = ofDocument text')

theorem ofDocument_of_read {text : String} {entries : List (String × Value)}
    (h : Toml.read? text = some entries) :
    ofDocument text = ((Schema.decodeCluster entries).mapError .mismatch).map withDefaults := by
  rw [ofDocument, h]
  dsimp only
  cases Schema.decodeCluster entries <;> rfl

/-- Respellings say the same. -/
theorem saidAlike_of_respelled {allowed : Liberty → Prop} {entries others : List (String × Value)}
    (h : Respelled allowed entries others) : SaidAlike allowed entries others := by
  have hagrees := h.agrees
  refine { decoded := hagrees.ok_iff, strict := hagrees.eq_of_strict, document := ?document }
  case document =>
    intro text text' hread hread'
    rw [ofDocument_of_read hread, ofDocument_of_read hread']
    refine ⟨fun cluster => ?_, fun hstrict => by rw [hagrees.eq_of_strict hstrict]⟩
    generalize Schema.decodeCluster entries = result at hagrees ⊢
    generalize Schema.decodeCluster others = result' at hagrees ⊢
    cases hagrees with
    | ok hsame => rw [hsame]
    | error => exact iff_of_false nofun nofun

/-- A document that takes every liberty: it has one more key, an entry that is a list with one more
item, and a mount with a default and a mode that is a table. -/
theorem saidAlike_of_respelled_freely :
    SaidAlike (fun _ => True)
        [("nodes", .array [.table [("image", .string "node"), ("role", .string "worker"),
          ("extra_mounts", .array [.table [("host_path", .string "/src"),
            ("container_path", .string "/dst"), ("propagation", .string "bidirectional")]]),
          ("replicas", .integer 2)]])]
        [("title", .string "test"), ("nodes", .array [.array [.string "worker", .string "node",
          .array [.table [("host_path", .string "/src"), ("container_path", .string "/dst"),
            ("propagation", .table [("bidirectional", .table [])]),
            ("read_only", .boolean false)]],
          .integer 2, .string "surplus"]])]
      ∧ Schema.decodeCluster
          [("title", .string "test"), ("nodes", .array [.array [.string "worker", .string "node",
            .array [.table [("host_path", .string "/src"), ("container_path", .string "/dst"),
              ("propagation", .table [("bidirectional", .table [])]),
              ("read_only", .boolean false)]],
            .integer 2, .string "surplus"]])]
        = .ok ⟨[{
            role := .worker
            image := "node"
            mounts := [{
              containerPath := "/dst"
              hostPath := "/src"
              propagation := .bidirectional }]
            replicas := some 2 }]⟩ := by
  have hnode {v w : Value} (h : NodeStep (fun _ => True) v w) :
      DocumentStep (fun _ => True) [("nodes", .array [v])] [("nodes", .array [w])] :=
    .field "nodes" _ _ (.nodes (.item h [] [])) [] []
  have hmount {v w : Value} (h : MountStep (fun _ => True) v w) (image role replicas) :
      NodeStep (fun _ => True) (.table [image, role, ("extra_mounts", .array [v]), replicas])
        (.table [image, role, ("extra_mounts", .array [w]), replicas]) :=
    .table (.field "extra_mounts" _ _ (.mounts (.item h [] [])) [_, _] [_])
  have hmode (source target) : MountStep (fun _ => True)
      (.table [source, target, ("propagation", .string "bidirectional")])
      (.table [source, target, ("propagation", .table [("bidirectional", .table [])])]) :=
    .table (.field "propagation" _ _ (.propagation (.table trivial _)) [_, _] [])
  have hdefault (mode) : MountStep (fun _ => True)
      (.table [("host_path", .string "/src"), ("container_path", .string "/dst"),
        ("propagation", mode)])
      (.table [("host_path", .string "/src"), ("container_path", .string "/dst"),
        ("propagation", mode), ("read_only", .boolean false)]) :=
    .table (.writtenDefault trivial "read_only" _ rfl [_, _, _] [] rfl)
  have hlist (role image mounts replicas) : NodeStep (fun _ => True)
      (.table [("image", image), ("role", role), ("extra_mounts", mounts), ("replicas", replicas)])
      (.array [role, image, mounts, replicas]) :=
    .asList trivial (by simp [nodeLayout, Layout.names, Toml.entry?, List.lookup_cons])
  have hitem (role image mounts replicas surplus) : NodeStep (fun _ => True)
      (.array [role, image, mounts, replicas]) (.array [role, image, mounts, replicas, surplus]) :=
    .list (.surplusItem trivial [_, _, _, _] (Nat.le_refl _) _)
  have hkey (nodes) : DocumentStep (fun _ => True) [("nodes", nodes)]
      [("title", .string "test"), ("nodes", nodes)] :=
    .strayKey trivial "title" (by decide) _ [] _
  refine ⟨saidAlike_of_respelled ?_, rfl⟩
  exact .trans _ _ _ (.rel _ _ (hnode (hmount (hmode _ _) _ _ _))) <|
    .trans _ _ _ (.rel _ _ (hnode (hmount (hdefault _) _ _ _))) <|
    .trans _ _ _ (.rel _ _ (hnode (hlist _ _ _ _))) <|
    .trans _ _ _ (.rel _ _ (hnode (hitem _ _ _ _ _))) (.rel _ _ (hkey _))

/-- Of two faults, a table and a list of its fields can report different ones. -/
example :
    Schema.decodeNode (.table [("role", .integer 1), ("image", .boolean true)])
        = .error (.wrongType (.boolean true) .text)
      ∧ Schema.decodeNode (.array [.integer 1, .boolean true])
        = .error (.wrongType (.integer 1) .text) := by decide

end Cluster

end ClusterProvision
