import ClusterProvision.Cluster.Basic
import ClusterProvision.Schema.Mismatch

/-!
# `ClusterProvision.Schema.Decode`: from a document's values to a cluster

A node entry or a mount is a table, or a list of its fields in the order of their
declaration. The fields of a table are looked at in the order of their names and the
first mismatch is reported; only then are fields missed, in the order of declaration.
Keys that name no field are never looked at. A date or time counts as a table without
a field that anyone knows.
-/

set_option autoImplicit false

namespace ClusterProvision.Schema

open Toml (Value)

/-- Reports that a value is not what its place calls for. -/
def unexpected {α : Type} (v : Value) (expected : Expected) : Except Mismatch α := do
  throw (.wrongType (← Found.of v) expected)

/-- A text. -/
def decodeString : Value → Except Mismatch String
  | .string s => .ok s
  | v => unexpected v .text

/-- A truth value. -/
def decodeBool : Value → Except Mismatch Bool
  | .boolean b => .ok b
  | v => unexpected v .boolean

/-- An integer of 32 bits with sign. -/
def decodeInt32 : Value → Except Mismatch Int32
  | .integer n =>
    if fitsSigned 64 n || fitsUnsigned 64 n then
      if fitsSigned 32 n then .ok (Int32.ofInt n)
      else .error (.outOfRange n .int32)
    else unexpected (.integer n) .int32
  | v => unexpected v .int32

/-- A list of things of one kind. -/
def decodeList {α : Type} (decodeItem : Value → Except Mismatch α) :
    Value → Except Mismatch (List α)
  | .array items => items.mapM decodeItem
  | v => unexpected v .sequence

/-- A role. -/
def decodeRole (v : Value) : Except Mismatch Role := do
  return Role.ofWire (← decodeString v)

/-- A propagation mode by its name. -/
def decodeMode (name : String) : Except Mismatch Propagation :=
  match Propagation.ofWire? name with
  | some p => .ok p
  | none => .error (.unknownVariant name)

/-- A propagation mode: its name, or a table with its name as the only key and an empty
table or list as the value. -/
def decodePropagation : Value → Except Mismatch Propagation
  | .string name => decodeMode name
  | .table [] => .error .emptyVariant
  | .table [(name, v)] => do
    let mode ← decodeMode name
    match v with
    | .table [] => return mode
    | .array [] => return mode
    | .table _ => throw .variantNotEmpty
    | .array _ => throw .variantNotEmpty
    | v => throw (.variantNoTable v.kind)
  | .table _ => .error .severalVariants
  | _ => .error .noVariant

/-- A field of a table, if the table has it. -/
def field? {α : Type} (entries : List (String × Value)) (name : String)
    (decodeField : Value → Except Mismatch α) : Except Mismatch (Option α) :=
  (Toml.entry? name entries).mapM decodeField

/-- A field that must not be missing. -/
def required {α : Type} (name : String) : Option α → Except Mismatch α
  | some a => .ok a
  | none => .error (.missingField name)

/-- A mount from a table. -/
def mountOfTable (entries : List (String × Value)) : Except Mismatch Mount := do
  let containerPath ← field? entries "container_path" decodeString
  let hostPath ← field? entries "host_path" decodeString
  let propagation ← field? entries "propagation" decodePropagation
  let readOnly ← field? entries "read_only" decodeBool
  let selinuxRelabel ← field? entries "selinux_relabel" decodeBool
  return {
    containerPath := ← required "container_path" containerPath
    hostPath := ← required "host_path" hostPath
    readOnly := readOnly.getD false
    selinuxRelabel := selinuxRelabel.getD false
    propagation := propagation.getD .none }

/-- A field at a place of a list, if the list is long enough. -/
def item? {α : Type} (items : List Value) (index : Nat)
    (decodeField : Value → Except Mismatch α) : Except Mismatch (Option α) :=
  items[index]?.mapM decodeField

/-- A field at a place of a list that must be long enough. -/
def requiredItem {α : Type} (items : List Value) (index : Nat) (expected : Expected)
    (decodeField : Value → Except Mismatch α) : Except Mismatch α :=
  match items[index]? with
  | some v => decodeField v
  | none => .error (.tooShort index expected)

/-- A mount from a list. What follows the last field is not looked at. -/
def mountOfList (items : List Value) : Except Mismatch Mount := do
  let containerPath ← requiredItem items 0 .mount decodeString
  let hostPath ← requiredItem items 1 .mount decodeString
  let readOnly ← item? items 2 decodeBool
  let selinuxRelabel ← item? items 3 decodeBool
  let propagation ← item? items 4 decodePropagation
  return {
    containerPath, hostPath
    readOnly := readOnly.getD false
    selinuxRelabel := selinuxRelabel.getD false
    propagation := propagation.getD .none }

/-- A mount. -/
def decodeMount : Value → Except Mismatch Mount
  | .table entries => mountOfTable entries
  | .array items => mountOfList items
  | .datetime _ => mountOfTable []
  | v => unexpected v .mount

/-- A node entry from a table. -/
def nodeOfTable (entries : List (String × Value)) : Except Mismatch NodeEntry := do
  let mounts ← field? entries "extra_mounts" (decodeList decodeMount)
  let image ← field? entries "image" decodeString
  let replicas ← field? entries "replicas" decodeInt32
  let role ← field? entries "role" decodeRole
  return {
    role := ← required "role" role
    image := ← required "image" image
    mounts := mounts.getD []
    replicas }

/-- A node entry from a list. What follows the last field is not looked at. -/
def nodeOfList (items : List Value) : Except Mismatch NodeEntry := do
  let role ← requiredItem items 0 .node decodeRole
  let image ← requiredItem items 1 .node decodeString
  let mounts ← item? items 2 (decodeList decodeMount)
  let replicas ← item? items 3 decodeInt32
  return { role, image, mounts := mounts.getD [], replicas }

/-- A node entry. -/
def decodeNode : Value → Except Mismatch NodeEntry
  | .table entries => nodeOfTable entries
  | .array items => nodeOfList items
  | .datetime _ => nodeOfTable []
  | v => unexpected v .node

/-- A cluster from the entries of a document. -/
def decodeCluster (entries : List (String × Value)) : Except Mismatch Cluster := do
  let nodes ← field? entries "nodes" (decodeList decodeNode)
  return ⟨nodes.getD []⟩

end ClusterProvision.Schema
