import ClusterProvision.Status.Event

/-!
# `ClusterProvision.Status.Phase`: a phase that reports its end once

A phase reports its start when it is opened and its end when it is finished. A phase may
be given up at any time, finished before or not; giving up one that is still open
reports an end without success. So its end is reported exactly once
(`finish_finish`, `drop_finish`).
-/

set_option autoImplicit false

namespace ClusterProvision

/-- A phase: its label, and whether its end has been reported. -/
structure Phase where
  label : String
  ended : Bool := false
  deriving DecidableEq, Repr, Inhabited

namespace Phase

/-- Opens a phase. -/
def start (label : String) : List StatusEvent × Phase := ([.start label], { label })

/-- Finishes a phase, unless that has been done. -/
def finish (phase : Phase) (success : Bool) : List StatusEvent × Phase :=
  if phase.ended then ([], phase)
  else ([.finish phase.label success], { phase with ended := true })

/-- Gives up a phase. -/
def drop (phase : Phase) : List StatusEvent := (phase.finish false).1

/-- Ends a phase and then gives it up. -/
def close (phase : Phase) (success : Bool) : List StatusEvent :=
  let (events, phase) := phase.finish success
  events ++ phase.drop

theorem finish_finish (phase : Phase) (first second : Bool) :
    ((phase.finish first).2.finish second).1 = [] := by
  cases h : phase.ended <;> simp [finish, h]

theorem drop_finish (phase : Phase) (success : Bool) : (phase.finish success).2.drop = [] :=
  phase.finish_finish success false

end Phase
end ClusterProvision
