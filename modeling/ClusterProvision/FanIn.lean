import ClusterProvision.Channel
import ClusterProvision.Timed

/-!
# `ClusterProvision.FanIn`: collecting what many tasks deliver

Each of a number of tasks delivers one outcome into a channel with a place for every
task, or none if it panics. A collector receives outcomes one at a time. It returns the
first failure that it receives, or all results once it has one from every task. When all
tasks have ended and nothing is left to receive before that, the run is aborted. Once it
has returned, it receives no more.
-/

set_option autoImplicit false

namespace ClusterProvision

/-- Tasks and their collector: how many tasks there are, how many still run, the channel
between them, the results received so far, and what the collector has returned. -/
structure FanIn (α : Type) where
  expected : Nat
  running : Nat
  channel : Channel (Except Failure α)
  received : List α := []
  result : Option (Except Failure (List α)) := none

namespace FanIn

variable {α : Type}

/-- The start of a run with a number of tasks. Without tasks there is nothing to collect. -/
def start (tasks : Nat) : FanIn α :=
  { expected := tasks, running := tasks, channel := { capacity := tasks },
    result := if tasks = 0 then some (.ok []) else none }

/-- The message that a task with a given ending delivers. -/
def message? : Ending α → Option (Except Failure α)
  | .done a => some (.ok a)
  | .failed failure => some (.error failure)
  | .panicked => none

/-- A task ends. -/
def finish (state : FanIn α) (ending : Ending α) : FanIn α :=
  { state with
    running := state.running - 1
    channel := match message? ending with
      | some message => state.channel.send message
      | none => state.channel }

/-- The collector returns, and with it goes its end of the channel. -/
def giveBack (state : FanIn α) (result : Except Failure (List α)) : FanIn α :=
  { state with result := some result, channel := state.channel.close }

/-- The collector takes one step: it receives an outcome, or sees that none will come. It
does nothing while it has to wait, or after it has returned. -/
def collect (state : FanIn α) : FanIn α :=
  if state.result.isSome then state
  else match state.channel.queue with
    | .error failure :: _ => state.giveBack (.error failure)
    | .ok a :: rest =>
      let received := state.received ++ [a]
      let state := { state with received, channel := { state.channel with queue := rest } }
      if received.length = state.expected then state.giveBack (.ok received) else state
    | [] =>
      if state.running = 0 then
        state.giveBack (.error (.aborted state.expected state.received.length))
      else state

end FanIn
end ClusterProvision
