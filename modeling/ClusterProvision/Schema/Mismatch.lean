import ClusterProvision.Decimal.Shortest
import ClusterProvision.Text.Quoted
import ClusterProvision.Toml.Value

/-!
# `ClusterProvision.Schema.Mismatch`: why a document does not describe a cluster

A mismatch names what was found and what was expected. `Found.of` says what a value is
found as; for a number that no machine type holds, looking at it is already a mismatch.
-/

set_option autoImplicit false

namespace ClusterProvision.Schema

open Toml (Value)

/-- What a value is found as. -/
inductive Found where
  | text (s : String)
  /-- An integer of at most 64 bits, with or without sign. -/
  | integer (n : Int)
  /-- An integer that needs 128 bits, with or without sign. -/
  | wideInteger (n : Int) (signed : Bool)
  | float (x : Decimal.Double)
  | boolean (b : Bool)
  | sequence
  | map
  deriving DecidableEq, Repr

/-- What a place in a document calls for. -/
inductive Expected where
  | text
  | boolean
  | sequence
  | int32
  | node
  | mount
  deriving DecidableEq, Repr

/-- Why a document does not describe a cluster. -/
inductive Mismatch where
  | wrongType (found : Found) (expected : Expected)
  | outOfRange (n : Int) (expected : Expected)
  | tooShort (length : Nat) (expected : Expected)
  | missingField (name : String)
  | unknownVariant (name : String)
  | noVariant
  | emptyVariant
  | severalVariants
  | variantNoTable (kind : String)
  | variantNotEmpty
  | integerTooLarge
  | floatTooLarge
  deriving DecidableEq, Repr

/-- Whether an integer fits into a number of bits, one of them for the sign. -/
def fitsSigned (bits : Nat) (n : Int) : Bool :=
  let limit : Int := Nat.pow 2 (bits - 1)
  0 ≤ n + limit && n < limit

/-- Whether an integer fits into a number of bits without a sign. -/
def fitsUnsigned (bits : Nat) (n : Int) : Bool :=
  let limit : Int := Nat.pow 2 bits
  0 ≤ n && n < limit

/-- What a value is found as. -/
def Found.of : Value → Except Mismatch Found
  | .string s => .ok (.text s)
  | .integer n =>
    if fitsSigned 64 n || fitsUnsigned 64 n then .ok (.integer n)
    else if fitsSigned 128 n then .ok (.wideInteger n true)
    else if fitsUnsigned 128 n then .ok (.wideInteger n false)
    else .error .integerTooLarge
  | .float x =>
    match x.toDouble? with
    | some x => .ok (.float x)
    | none => .error .floatTooLarge
  | .boolean b => .ok (.boolean b)
  | .array _ => .ok .sequence
  | .datetime _ => .ok .map
  | .table _ => .ok .map

/-- The words for what was found. -/
def Found.words : Found → String
  | text s => "string " ++ Text.quoted s
  | integer n => "integer `" ++ toString n ++ "`"
  | wideInteger n signed =>
    "integer `" ++ toString n ++ "` as " ++ if signed then "i128" else "u128"
  | float x => "floating point `" ++ x.text ++ "`"
  | boolean b => "boolean `" ++ (if b then "true" else "false") ++ "`"
  | sequence => "sequence"
  | map => "map"

/-- The words for what was expected. -/
def Expected.words : Expected → String
  | text => "a string"
  | boolean => "a boolean"
  | sequence => "a sequence"
  | int32 => "i32"
  | node => "struct NodeConfig"
  | mount => "struct Mount"

/-- The number of fields of what was expected. -/
def Expected.fields : Expected → Nat
  | node => 4
  | mount => 5
  | _ => 0

/-- The message for a mismatch. -/
def Mismatch.message : Mismatch → String
  | wrongType found expected =>
    "invalid type: " ++ found.words ++ ", expected " ++ expected.words
  | outOfRange n expected =>
    "invalid value: integer `" ++ toString n ++ "`, expected " ++ expected.words
  | tooShort length expected =>
    "invalid length " ++ length.repr ++ ", expected " ++ expected.words ++ " with "
      ++ expected.fields.repr ++ " elements"
  | missingField name => "missing field `" ++ name ++ "`"
  | unknownVariant name =>
    "unknown variant `" ++ name
      ++ "`, expected one of `none`, `host-to-container`, `bidirectional`"
  | noVariant => "wanted string or table"
  | emptyVariant => "wanted exactly 1 element, found 0 elements"
  | severalVariants => "wanted exactly 1 element, more than 1 element"
  | variantNoTable kind => "expected table, found " ++ kind
  | variantNotEmpty => "expected empty table"
  | integerTooLarge => "integer number overflowed"
  | floatTooLarge => "floating-point number overflowed"

end ClusterProvision.Schema
