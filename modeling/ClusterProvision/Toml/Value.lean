import ClusterProvision.Decimal.Double

/-!
# `ClusterProvision.Toml.Value`: what a document says

Numbers are kept as they are written, without a limit: whether an integer or a float
fits is a question for whoever reads the value. A date or time is kept as its text.
A table is a list of entries with distinct keys.
-/

set_option autoImplicit false

namespace ClusterProvision.Toml

/-- A float as it is written. -/
inductive FloatLiteral where
  | nan
  | infinity (negative : Bool)
  | decimal (negative : Bool) (digits : Nat) (exponent : Int)
  deriving DecidableEq, Repr, Inhabited

/-- The double nearest to a float; `none` if it is too large for a finite one. -/
def FloatLiteral.toDouble? : FloatLiteral → Option Decimal.Double
  | nan => some .nan
  | infinity negative => some (.infinite negative)
  | decimal negative digits exponent =>
    match Decimal.Double.nearest negative digits exponent with
    | .infinite _ => none
    | x => some x

/-- A value of a document. -/
inductive Value where
  | string (text : String)
  | integer (n : Int)
  | float (x : FloatLiteral)
  | boolean (b : Bool)
  | datetime (text : String)
  | array (items : List Value)
  | table (entries : List (String × Value))
  deriving Repr, Inhabited

namespace Value

/-- The word for the kind of a value. -/
def kind : Value → String
  | string _ => "string"
  | integer _ => "integer"
  | float _ => "float"
  | boolean _ => "boolean"
  | datetime _ => "datetime"
  | array _ => "array"
  | table _ => "table"

end Value

/-- The value of a key in a list of entries. -/
def entry? (key : String) (entries : List (String × Value)) : Option Value :=
  entries.lookup key

end ClusterProvision.Toml
