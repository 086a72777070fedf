/-!
# `ClusterProvision.Mount`: host paths mounted into a node
-/

set_option autoImplicit false

namespace ClusterProvision

/-- How mounts made later travel between the host and the node. -/
inductive Propagation where
  | none
  | hostToContainer
  | bidirectional
  deriving DecidableEq, Repr, Inhabited

namespace Propagation

/-- The name of a propagation mode in documents. -/
def wire : Propagation → String
  | none => "none"
  | hostToContainer => "host-to-container"
  | bidirectional => "bidirectional"

/-- The mode with the given name. -/
def ofWire? (text : String) : Option Propagation :=
  if text = "none" then some none
  else if text = "host-to-container" then some hostToContainer
  else if text = "bidirectional" then some bidirectional
  else Option.none

theorem ofWire?_wire (p : Propagation) : ofWire? p.wire = some p := by
  cases p <;> rfl

end Propagation

/-- A host path made visible inside a node. -/
structure Mount where
  containerPath : String
  hostPath : String
  readOnly : Bool := false
  selinuxRelabel : Bool := false
  propagation : Propagation := .none
  deriving DecidableEq, Repr, Inhabited

end ClusterProvision
