import ClusterProvision.FanIn
import ClusterProvision.NodeRun

/-!
# `ClusterProvision.Crew`: nodes provisioned side by side

Every node has a task, and a task is what is left of its course: the events still to
come, and its end. A schedule is any sequence of moves of the tasks and of the collector.
The tasks go on after the collector has returned.

On a virtual clock, which stands still while anything can move, a schedule is given by
the times of the events: tasks move in the order of their times, those of one instant in
the order of their nodes, and the collector moves whenever it can.
-/

set_option autoImplicit false

namespace ClusterProvision

/-- A task: the events still to come, and its end unless that has come. -/
structure Task where
  pending : List (Nat × Event)
  finish : Nat
  ending : Ending ReadyNode
  ended : Bool := false
  deriving DecidableEq, Repr

/-- What is written down about a run: an event of a node's task, that a task has ended, or
that the result has been returned. -/
inductive Entry where
  | event (task : Nat) (time : Nat) (what : Event)
  | ended (task : Nat) (time : Nat)
  | returned (time : Nat)
  deriving DecidableEq, Repr

/-- A move of a run: a task does what comes next for it, or the collector does. -/
inductive Move where
  | task (index : Nat)
  | collect
  deriving DecidableEq, Repr

/-- A run under way. The journal has the latest entry first. -/
structure Crew where
  tasks : List Task
  fanIn : FanIn ReadyNode
  clock : Nat := 0
  journal : List Entry := []

namespace Crew

/-- The task that a course gives. -/
def taskOf (course : Course ReadyNode) : Task :=
  { pending := course.events, finish := course.finish, ending := course.ending }

/-- The start of a run. -/
def start (courses : List (Course ReadyNode)) : Crew :=
  { tasks := courses.map taskOf, fanIn := FanIn.start courses.length,
    journal := if courses.isEmpty then [.returned 0] else [] }

/-- A task does what comes next for it: its next event, or its end. -/
def moveTask (crew : Crew) (index : Nat) : Crew :=
  match crew.tasks[index]? with
  | none => crew
  | some task =>
    match task.pending with
    | (time, event) :: rest =>
      { crew with
        tasks := crew.tasks.set index { task with pending := rest }
        clock := max crew.clock time
        journal := .event index time event :: crew.journal }
    | [] =>
      if task.ended then crew
      else
        { crew with
          tasks := crew.tasks.set index { task with ended := true }
          clock := max crew.clock task.finish
          fanIn := crew.fanIn.finish task.ending
          journal := .ended index task.finish :: crew.journal }

/-- The collector does what comes next for it. -/
def moveCollector (crew : Crew) : Crew :=
  let fanIn := crew.fanIn.collect
  { crew with
    fanIn
    journal := if crew.fanIn.result.isNone && fanIn.result.isSome
      then .returned crew.clock :: crew.journal else crew.journal }

/-- Makes a move. -/
def move (crew : Crew) : Move → Crew
  | .task index => crew.moveTask index
  | .collect => crew.moveCollector

/-- Makes the moves of a schedule, one after another. -/
def run (crew : Crew) (schedule : List Move) : Crew := schedule.foldl move crew

/-- The times at which a task moves. -/
def times (course : Course ReadyNode) : List Nat := course.events.map Prod.fst ++ [course.finish]

/-- The moves of the tasks with their times, on the virtual clock. -/
def agenda (courses : List (Course ReadyNode)) : List (Nat × Nat) :=
  sortOn Prod.fst <| courses.zipIdx.flatMap fun (course, index) =>
    (times course).map fun time => (time, index)

/-- The schedule that the virtual clock makes. A task's move brings the collector at most one
outcome; a second step lets it see that no other will come. -/
def byClock (courses : List (Course ReadyNode)) : List Move :=
  (agenda courses).flatMap fun (_, index) => [.task index, .collect, .collect]

/-- What the collector has returned. -/
def result (crew : Crew) : Option (Except Failure (List ReadyNode)) := crew.fanIn.result

/-- The outcome that a task has for the collector, if it has one. -/
def outcome? (crew : Crew) (index : Nat) : Option (Except Failure ReadyNode) :=
  crew.tasks[index]?.bind fun task => FanIn.message? task.ending

/-- The outcomes that the tasks have delivered so far, in order. -/
def delivered (crew : Crew) : List (Except Failure ReadyNode) :=
  crew.journal.reverse.filterMap fun entry =>
    match entry with
    | .ended task _ => crew.outcome? task
    | _ => none

/-- When the collector returned. -/
def returnedAt (crew : Crew) : Option Nat :=
  crew.journal.findSome? fun entry =>
    match entry with
    | .returned time => some time
    | _ => none

/-- The calls of a task so far, with their times. -/
def calls (crew : Crew) (index : Nat) : List (Nat × Call) :=
  crew.journal.reverse.filterMap fun entry =>
    match entry with
    | .event task time (.called call) => if task = index then some (time, call) else none
    | _ => none

end Crew
end ClusterProvision
