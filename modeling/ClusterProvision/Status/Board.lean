import ClusterProvision.Status.Phase

/-!
# `ClusterProvision.Status.Board`: phases that run side by side

A board keeps open phases, each under a number. A phase started under a number that is
in use takes the place of the one before, which is given up after the new one has
started. A phase that is ended or dropped leaves the board.
-/

set_option autoImplicit false

namespace ClusterProvision

/-- The open phases, each with its number. -/
structure Board where
  phases : List (Nat × Phase) := []
  deriving DecidableEq, Repr

/-- Something done with the phases of a board. -/
inductive PhaseStep where
  | start (id : Nat) (label : String)
  | finish (id : Nat) (success : Bool)
  | drop (id : Nat)
  deriving DecidableEq, Repr

/-- What a step answers. -/
inductive PhaseAnswer where
  | started (label : String)
  | ended
  | dropped
  | absent
  deriving DecidableEq, Repr

namespace Board

/-- The phase under a number. -/
def get? (board : Board) (id : Nat) : Option Phase := board.phases.lookup id

/-- A board without the phase under a number. -/
def erase (board : Board) (id : Nat) : Board := ⟨board.phases.filter (·.1 ≠ id)⟩

/-- A board with a phase under a number. -/
def insert (board : Board) (id : Nat) (phase : Phase) : Board :=
  ⟨(id, phase) :: (board.erase id).phases⟩

/-- Takes a step: its answer, the events it reports, and the board after it. -/
def step (board : Board) : PhaseStep → PhaseAnswer × List StatusEvent × Board
  | .start id label =>
    let (events, phase) := Phase.start label
    let given := match board.get? id with
      | some old => old.drop
      | none => []
    (.started phase.label, events ++ given, board.insert id phase)
  | .finish id success =>
    match board.get? id with
    | some phase => (.ended, phase.close success, board.erase id)
    | none => (.absent, [], board)
  | .drop id =>
    match board.get? id with
    | some phase => (.dropped, phase.drop, board.erase id)
    | none => (.absent, [], board)

end Board
end ClusterProvision
