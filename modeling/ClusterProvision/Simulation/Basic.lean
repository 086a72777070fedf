import ClusterProvision.Failure
import ClusterProvision.Provider

/-!
# `ClusterProvision.Simulation.Basic`: a provider that starts nothing

A simulated provider takes its time to create a node and then has a record of it; no
container is started. Delays and faults can be arranged for single nodes. A node without
a fault does what it is asked for at once.
-/

set_option autoImplicit false

namespace ClusterProvision

/-- A fault arranged for a node: it cannot be created, a step fails, or its container
runtime is never ready. -/
inductive SimulatedFault where
  | creation
  | step (step : Step)
  | neverReady
  deriving DecidableEq, Repr

namespace SimulatedFault

/-- The fault with a name. -/
def ofName? (text : String) : Option SimulatedFault :=
  if text = "creation" then some creation
  else if text = "never_ready" then some neverReady
  else (Step.ofName? text).map step

end SimulatedFault

/-- A simulated provider. Times are in milliseconds. -/
structure Simulation where
  needProxy : Bool := false
  createDelay : Nat := 100
  nodeDelays : List (String × Nat) := []
  faults : List (String × SimulatedFault) := []
  deriving DecidableEq, Repr

namespace Simulation

/-- How a step of a node with a certain fault, or none, comes out. -/
def stepOutcome (fault? : Option SimulatedFault) (step : Step) : Outcome :=
  if fault? = some (.step step) then .failure ⟨"simulated " ++ step.name ++ " failure", []⟩
  else .success

/-- Whether the container runtime of a node is ready. -/
def isReady (fault? : Option SimulatedFault) : Bool :=
  fault? ≠ some .neverReady && fault? ≠ some (.step .waitForDocker)

variable (simulation : Simulation)

/-- The fault arranged for a node. -/
def fault? (node : String) : Option SimulatedFault := simulation.faults.lookup node

/-- How long it takes to create a node. -/
def delay (node : String) : Nat :=
  (simulation.nodeDelays.lookup node).getD simulation.createDelay

/-- What comes of creating a node. -/
def createReply (node : String) : Reply where
  delay := simulation.delay node
  outcome :=
    if simulation.fault? node = some .creation then .failure ⟨"simulated creation failure", []⟩
    else .success

/-- What the provider does for a node. -/
def behaviour (node : String) : Behaviour :=
  let fault? := simulation.fault? node
  { create := simulation.createReply node
    fixMounts := { outcome := stepOutcome fault? .fixMounts }
    setProxy := { outcome := stepOutcome fault? .setProxy }
    signalStart := { outcome := stepOutcome fault? .signalStart }
    probing := { reply := fun _ => .answer (isReady fault?) 0 }
    loadImages := { outcome := stepOutcome fault? .loadImages } }

/-- The provider. -/
def provider : Provider := ⟨simulation.needProxy, simulation.behaviour⟩

end Simulation
end ClusterProvision
