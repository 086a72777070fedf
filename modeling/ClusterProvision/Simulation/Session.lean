import ClusterProvision.Simulation.Basic
import ClusterProvision.Simulation.Record

/-!
# `ClusterProvision.Simulation.Session`: calling a simulated provider directly

In a session the calls of a provider and of its nodes are made one after another. Each
create call gets the next number, whether it succeeds or not, and a node is called by
the number of its create call. Only create calls take time.
-/

set_option autoImplicit false

namespace ClusterProvision.Simulation

/-- A node of a simulated provider. -/
structure Node where
  name : String
  bootId : String
  fault? : Option SimulatedFault
  deriving DecidableEq, Repr

/-- The text of a node for messages. -/
def Node.text (node : Node) : String :=
  "NodeHandle \x7b name: " ++ Text.quoted node.name ++ " \x7d"

/-- A session under way: the time, the record, and what came of each create call. -/
structure Session where
  clock : Nat := 0
  record : Record := {}
  nodes : List (Option Node) := []
  deriving DecidableEq, Repr

/-- A step of a session. -/
inductive SessionStep where
  | create (method : CreateMethod) (request : CreateRequest)
  | take (node : Nat) (step : Step)
  | probe (node : Nat)
  | created
  | imagesLoaded
  | needProxy
  deriving DecidableEq, Repr

/-- What a step of a session answers. -/
inductive SessionAnswer where
  | node (node : Node)
  | failed (source : ErrorChain)
  | noNode
  | done
  | ready (isReady : Bool)
  | created (record : Record)
  | imagesLoaded (count : Nat)
  | needProxy (needed : Bool)
  deriving DecidableEq, Repr

namespace Session

/-- The log entry for a created node. -/
def createdLog (role : Role) (request : CreateRequest) (bootId : String) : Log :=
  ⟨.info, "[SIM] Created node",
    [("node", .text request.name), ("role", .text role.wire), ("image", .text request.image),
      ("label", .text request.label), ("mounts", .number request.mounts.length),
      ("boot_id", .text bootId)]⟩

/-- The log entry for a step of a node. -/
def stepLog (node : Node) (step : Step) : Log :=
  ⟨.debug, "[SIM] Fixup step",
    [("node", .text node.name), ("boot_id", .text node.bootId), ("step", .text step.name)]⟩

/-- The node of a create call, if it has one. -/
def node? (session : Session) (number : Nat) : Option Node := session.nodes[number]?.join

/-- What a create call does once its delay is over. -/
def complete (simulation : Simulation) (session : Session) (method : CreateMethod)
    (request : CreateRequest) : SessionAnswer × List Log × Session :=
  match (simulation.createReply request.name).outcome with
  | .failure source => (.failed source, [], { session with nodes := session.nodes ++ [none] })
  | _ =>
    let bootId := Record.bootId session.record.boots
    let node := ⟨request.name, bootId, simulation.fault? request.name⟩
    (.node node, [createdLog method.role request bootId],
      { session with
        record := session.record.create method.role request.name
        nodes := session.nodes ++ [some node] })

/-- Makes a create call and waits for its end. -/
def create (simulation : Simulation) (session : Session) (method : CreateMethod)
    (request : CreateRequest) : SessionAnswer × List Log × Session :=
  let clock := session.clock + simulation.delay request.name
  complete simulation { session with clock } method request

/-- Takes a step of a node. -/
def take (session : Session) (node : Node) (step : Step) :
    SessionAnswer × List Log × Session :=
  match stepOutcome node.fault? step with
  | .failure source => (.failed source, [stepLog node step], session)
  | _ =>
    let record := if step = .loadImages then session.record.loadImages else session.record
    (.done, [stepLog node step], { session with record })

/-- Takes a step: its answer, its log, and the session after it. -/
def step (simulation : Simulation) (session : Session) :
    SessionStep → SessionAnswer × List Log × Session
  | .create method request => session.create simulation method request
  | .take number step =>
    match session.node? number with
    | some node => session.take node step
    | none => (.noNode, [], session)
  | .probe number =>
    match session.node? number with
    | some node => (.ready (isReady node.fault?), [], session)
    | none => (.noNode, [], session)
  | .created => (.created session.record, [], session)
  | .imagesLoaded => (.imagesLoaded session.record.imagesLoaded, [], session)
  | .needProxy => (.needProxy simulation.needProxy, [], session)

/-- Takes steps, one after another. Each answer comes with the time after its step and the
log of the step. -/
def run (simulation : Simulation) (session : Session) :
    List SessionStep → List (SessionAnswer × Nat × List Log)
  | [] => []
  | first :: rest =>
    let (answer, logs, session) := session.step simulation first
    (answer, session.clock, logs) :: session.run simulation rest

end Session
end ClusterProvision.Simulation
