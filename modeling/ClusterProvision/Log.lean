/-!
# `ClusterProvision.Log`: what a run writes down
-/

set_option autoImplicit false

namespace ClusterProvision

/-- How much a log entry matters. -/
inductive Level where
  | debug
  | info
  | warn
  | error
  deriving DecidableEq, Repr, Inhabited

/-- The name of a level. -/
def Level.name : Level → String
  | debug => "DEBUG"
  | info => "INFO"
  | warn => "WARN"
  | error => "ERROR"

/-- The value of a field of a log entry. -/
inductive FieldValue where
  | text (s : String)
  | number (n : Nat)
  deriving DecidableEq, Repr

/-- An entry of a log. -/
structure Log where
  level : Level
  message : String
  fields : List (String × FieldValue)
  deriving DecidableEq, Repr

end ClusterProvision
