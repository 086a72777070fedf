import ClusterProvision.Log

/-!
# `ClusterProvision.Status.Event`: what is reported about phases

A phase of a run has a label. Its start and its end are reported as events, which say
what has happened and not when. Status is there to be watched: nothing in a run depends on
what becomes of an event.
-/

set_option autoImplicit false

namespace ClusterProvision

/-- The start or the end of a phase. -/
inductive StatusEvent where
  | start (label : String)
  | finish (label : String) (success : Bool)
  deriving DecidableEq, Repr

namespace StatusEvent

/-- The label of the phase that an event is about. -/
def label : StatusEvent → String
  | start label => label
  | finish label _ => label

/-- The log entry for an event. The end of a phase that went wrong is an error. -/
def log : StatusEvent → Log
  | start label => ⟨.info, " • " ++ label, [("phase", .text label)]⟩
  | finish label true => ⟨.info, " ✓ " ++ label, [("phase", .text label)]⟩
  | finish label false => ⟨.error, " ✗ " ++ label, [("phase", .text label)]⟩

end StatusEvent
end ClusterProvision
