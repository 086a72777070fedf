import ClusterProvision.Channel
import ClusterProvision.Status.Board

/-!
# `ClusterProvision.Status.Session`: phases and the sink that they report to

A sink passes events on into a channel, or does nothing with them. A session has a board
of phases and their sink. Events can also be given to the sink directly, and whoever
listens can take what has arrived, or stop listening.
-/

set_option autoImplicit false

namespace ClusterProvision

/-- Where events go: into a channel, or nowhere. The channel of a sink that passes nothing
on still has a listener. -/
structure Sink where
  channel : Channel StatusEvent
  passesOn : Bool := true
  deriving DecidableEq, Repr

/-- Gives events to a sink, one after another. -/
def Sink.report (sink : Sink) (events : List StatusEvent) : Sink :=
  if sink.passesOn then { sink with channel := sink.channel.sendAll events } else sink

/-- Phases and their sink. -/
structure StatusSession where
  board : Board := {}
  sink : Sink
  deriving DecidableEq, Repr

/-- A step of a session. -/
inductive SessionStep where
  | phase (step : PhaseStep)
  | report (event : StatusEvent)
  | drain
  | close
  deriving DecidableEq, Repr

/-- What a step of a session answers. -/
inductive SessionAnswer where
  | phase (answer : PhaseAnswer)
  | nothing
  | received (events : List StatusEvent)
  | closed
  deriving DecidableEq, Repr

namespace StatusSession

/-- The start of a session whose channel holds a number of events. -/
def new (capacity : Nat) (passesOn : Bool) : StatusSession :=
  { sink := { channel := { capacity }, passesOn } }

/-- Takes a step. -/
def step (session : StatusSession) : SessionStep → SessionAnswer × StatusSession
  | .phase step =>
    let (answer, events, board) := session.board.step step
    (.phase answer, { board, sink := session.sink.report events })
  | .report event => (.nothing, { session with sink := session.sink.report [event] })
  | .drain =>
    let (events, channel) := session.sink.channel.drain
    let answer := match events with
      | some events => .received events
      | none => .closed
    (answer, { session with sink := { session.sink with channel } })
  | .close =>
    (.nothing, { session with sink := { session.sink with channel := session.sink.channel.close } })

/-- Takes steps, one after another, and gives their answers. -/
def run (session : StatusSession) : List SessionStep → List SessionAnswer
  | [] => []
  | first :: rest =>
    let (answer, session) := session.step first
    answer :: session.run rest

end StatusSession
end ClusterProvision
