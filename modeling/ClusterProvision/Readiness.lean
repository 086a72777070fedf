import ClusterProvision.Provider

/-!
# `ClusterProvision.Readiness`: waiting until a node is ready

A node is probed again and again, with a pause after each answer, until it is ready or
the deadline has come. A probe that has not answered by the deadline is cut off; an
answer exactly at the deadline still counts. The last pause is cut short at the
deadline, and no probe starts at or after it.

With a pause of at least 1 ms each probe starts later than the one before, so at most
as many probes start as there are milliseconds up to the deadline.
-/

set_option autoImplicit false

namespace ClusterProvision

/-- The end of a wait: whether the node was ready, when it ended, and the probes made. -/
structure Wait where
  ready : Bool
  finish : Nat
  probes : List Probe
  deriving DecidableEq, Repr

namespace Readiness

/-- Waits on from a time, after some probes, for at most `rounds` more of them. Polling that
outlasts its rounds would never end; it counts as cut off at the deadline. -/
def poll (probing : Probing) (deadline interval : Nat) : Nat → List Probe → Nat → Wait
  | 0, made, now => ⟨false, max now deadline, made.reverse⟩
  | rounds + 1, made, now =>
    if deadline ≤ now then ⟨false, now, made.reverse⟩
    else
      let probe : Probe := ⟨now, probing.reply made⟩
      match probe.reply with
      | .silence => ⟨false, deadline, (probe :: made).reverse⟩
      | .answer ready delay =>
        if deadline < now + delay then ⟨false, deadline, (probe :: made).reverse⟩
        else if ready then ⟨true, now + delay, (probe :: made).reverse⟩
        else if deadline ≤ now + delay then ⟨false, now + delay, (probe :: made).reverse⟩
        else
          poll probing deadline interval rounds (probe :: made)
            (now + delay + min interval (deadline - (now + delay)))

/-- Waits from a start to a deadline, with a pause of `interval` after each answer. -/
def wait (probing : Probing) (start deadline interval : Nat) : Wait :=
  poll probing deadline interval (deadline - start + probing.settled) [] start

end Readiness
end ClusterProvision
