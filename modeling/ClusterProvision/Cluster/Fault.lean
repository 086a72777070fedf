import ClusterProvision.Schema.Mismatch

/-!
# `ClusterProvision.Cluster.Fault`: what can be wrong with a cluster's description

Two faults lie in what a description says: a negative replica count and an entry
without an image. The others arise on the way to it: the file cannot be read, its text
is no document, or the document does not describe a cluster.
-/

set_option autoImplicit false

namespace ClusterProvision

/-- What is wrong with a cluster's description. -/
inductive ClusterFault where
  | negativeReplicas (index : Nat) (role : String) (replicas : Int32)
  | missingImage (index : Nat)
  | malformed
  | mismatch (cause : Schema.Mismatch)
  | unreadable (path : String) (cause : String)
  deriving DecidableEq, Repr

namespace ClusterFault

/-- How the report on a document that cannot be used begins. -/
def reportHead : String := "TOML parse error"

/-- The message for a fault. -/
def message : ClusterFault → String
  | negativeReplicas index role replicas =>
    "invalid replica count for node " ++ index.repr ++ " (" ++ role ++ "): "
      ++ toString replicas.toInt ++ ", must be >= 0"
  | missingImage index => "node " ++ index.repr ++ " has no image"
  | malformed => "failed to parse cluster config: " ++ reportHead
  | mismatch cause => "failed to parse cluster config: " ++ reportHead ++ "\n" ++ cause.message
  | unreadable path cause => "failed to read cluster config " ++ path ++ ": " ++ cause

/-- The messages of what caused a fault, from the nearest cause on. -/
def causes : ClusterFault → List String
  | negativeReplicas .. => []
  | missingImage .. => []
  | malformed => [reportHead]
  | mismatch cause => [reportHead ++ "\n" ++ cause.message]
  | unreadable _ cause => [cause]

/-- Whether a fault lies in what the description says. -/
def isValidation : ClusterFault → Bool
  | negativeReplicas .. => true
  | missingImage .. => true
  | _ => false

end ClusterFault
end ClusterProvision
