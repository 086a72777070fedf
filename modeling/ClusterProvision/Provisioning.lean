import ClusterProvision.Cluster.Validation
import ClusterProvision.Crew
import ClusterProvision.Status.Phase

/-!
# `ClusterProvision.Provisioning`: a whole run

A cluster is checked and planned before anything happens. Then all its nodes are
provisioned side by side, on the virtual clock, within one phase. The run returns once its
collector does; tasks that are still under way go on to their end.

What happens is written into a journal. The start of the phase stands before everything
else in it, and the end of the phase where the run returns.
-/

set_option autoImplicit false

namespace ClusterProvision

/-- Something that happens in a run: a report on the phase, or an event of a node's task. -/
inductive Occurrence where
  | status (event : StatusEvent)
  | node (name : String) (time : Nat) (what : Event)
  deriving DecidableEq, Repr

/-- What comes of a run: its result, the time at which it was returned, and the journal up to
the end of the last task. -/
structure Provisioning where
  result : Except Failure (List ReadyNode)
  returnedAt : Nat
  journal : List Occurrence

namespace Provisioning

/-- The crew for nodes, after all of its moves on the virtual clock. -/
def crew (settings : Settings) (provider : Provider) (label : String) (specs : List NodeSpec) :
    Crew :=
  let courses := specs.map (NodeRun.course settings provider label)
  (Crew.start courses).run (Crew.byClock courses)

/-- What a crew has returned. One whose collector still waits has not got all outcomes. -/
def outcome (crew : Crew) : Except Failure (List ReadyNode) :=
  crew.result.getD (.error (.aborted crew.fanIn.expected crew.fanIn.received.length))

/-- An entry of a crew's journal, where `names` are those of its tasks and `closing` is
reported when the collector returns. -/
def occurrences (names : List String) (closing : List StatusEvent) : Entry → List Occurrence
  | .event task time what => [.node (names.getD task "") time what]
  | .ended .. => []
  | .returned _ => closing.map .status

/-- Provisions nodes; `opening` is reported first, and `closing` when the result is there. -/
def bracketed (settings : Settings) (provider : Provider) (label : String)
    (specs : List NodeSpec) (opening : List StatusEvent)
    (closing : Except Failure (List ReadyNode) → List StatusEvent) : Provisioning :=
  let crew := crew settings provider label specs
  let names := specs.map NodeSpec.name
  { result := outcome crew
    returnedAt := crew.returnedAt.getD crew.clock
    journal := opening.map .status
      ++ crew.journal.reverse.flatMap (occurrences names (closing (outcome crew))) }

/-- Provisions nodes. -/
def ofSpecs (settings : Settings) (provider : Provider) (label : String)
    (specs : List NodeSpec) : Provisioning :=
  bracketed settings provider label specs [] fun _ => []

/-- The label of the phase for a number of nodes. -/
def phaseLabel (nodes : Nat) : String :=
  "Preparing nodes " ++ String.ofList (List.replicate nodes '📦')

/-- The nodes of a cluster that is in order. -/
def plan (cluster : Cluster) (name : String) (order : RoleOrder) :
    Except ClusterFault (List NodeSpec) := do
  cluster.validate
  cluster.plan name order

/-- Provisions the nodes of a cluster. -/
def ofCluster (settings : Settings) (provider : Provider) (cluster : Cluster)
    (name label : String) : Provisioning :=
  match plan cluster name ⟨settings.roleOrder⟩ with
  | .error fault => { result := .error (.config fault), returnedAt := 0, journal := [] }
  | .ok specs =>
    let (opening, phase) := Phase.start (phaseLabel specs.length)
    bracketed settings provider label specs opening fun result =>
      match result with
      | .ok _ => phase.close true
      | .error _ => phase.drop

/-- The reports on the phase, in order. -/
def status (run : Provisioning) : List StatusEvent :=
  run.journal.filterMap fun occurrence =>
    match occurrence with
    | .status event => some event
    | .node .. => none

/-- The events of the tasks, in order. -/
def events (run : Provisioning) : List Event :=
  run.journal.filterMap fun occurrence =>
    match occurrence with
    | .node _ _ what => some what
    | .status _ => none

/-- The create calls, in order. -/
def requests (run : Provisioning) : List (CreateMethod × CreateRequest) :=
  run.events.filterMap fun event =>
    match event with
    | .called (.create method request) => some (method, request)
    | _ => none

/-- The calls made for the node with a given name, with their times. -/
def calls (run : Provisioning) (node : String) : List (Nat × Call) :=
  run.journal.filterMap fun occurrence =>
    match occurrence with
    | .node name time (.called call) => if name = node then some (time, call) else none
    | _ => none

end Provisioning

/-- Ready nodes in the order in which they became ready; those of one instant by name. -/
def ReadyNode.listing (nodes : List ReadyNode) : List ReadyNode :=
  nodes.mergeSort fun a b =>
    decide (a.since < b.since) || (a.since == b.since && decide (a.name ≤ b.name))

/-- Ready nodes by name. -/
def ReadyNode.byName (nodes : List ReadyNode) : List ReadyNode :=
  nodes.mergeSort fun a b => decide (a.name ≤ b.name)

end ClusterProvision
