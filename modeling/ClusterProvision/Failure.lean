import ClusterProvision.Cluster.Fault
import ClusterProvision.Duration
import ClusterProvision.ErrorChain
import ClusterProvision.Role

/-!
# `ClusterProvision.Failure`: why provisioning failed
-/

set_option autoImplicit false

namespace ClusterProvision

/-- A step of getting a created node ready. -/
inductive Step where
  | fixMounts
  | setProxy
  | signalStart
  | waitForDocker
  | loadImages
  deriving DecidableEq, Repr, Inhabited

namespace Step

/-- The name of a step. -/
def name : Step → String
  | fixMounts => "fix_mounts"
  | setProxy => "set_proxy"
  | signalStart => "signal_start"
  | waitForDocker => "wait_for_docker"
  | loadImages => "load_images"

/-- All steps, in the order in which they are taken. -/
def all : List Step := [fixMounts, setProxy, signalStart, waitForDocker, loadImages]

/-- The step with a name. -/
def ofName? (text : String) : Option Step := all.find? (·.name = text)

end Step

/-- Why provisioning failed. -/
inductive Failure where
  | config (fault : ClusterFault)
  | invalidRole (node : String) (role : Role)
  | creation (node : String) (source : ErrorChain)
  | fixup (node : String) (step : Step) (source : ErrorChain)
  | notReady (node : String) (timeout : Duration)
  | imageLoad (node : String) (source : ErrorChain)
  | aborted (expected received : Nat)
  deriving DecidableEq, Repr

namespace Failure

/-- The message for a failure. -/
def message : Failure → String
  | config fault => "invalid cluster config: " ++ fault.message
  | invalidRole node role => "unknown node role: " ++ role.wire ++ " (node " ++ node ++ ")"
  | creation node source => "failed to create node " ++ node ++ ": " ++ source.joined
  | fixup node step source =>
    "failed to " ++ step.name ++ " for node " ++ node ++ ": " ++ source.joined
  | notReady node timeout =>
    "timed out after " ++ timeout.text ++ " waiting for docker to be ready on node " ++ node
  | imageLoad node source => "failed to load images into node " ++ node ++ ": " ++ source.joined
  | aborted expected received =>
    "provisioning aborted: received " ++ received.repr ++ " of " ++ expected.repr
      ++ " node outcomes"

/-- The code for the kind of a failure. -/
def reason : Failure → String
  | config _ => "config_invalid"
  | invalidRole .. => "invalid_role"
  | creation .. => "creation_failed"
  | fixup .. => "fixup_failed"
  | notReady .. => "node_not_ready"
  | imageLoad .. => "image_load_failed"
  | aborted .. => "aborted"

/-- The node that a failure happened on, if it happened on one. -/
def node? : Failure → Option String
  | invalidRole node _ => some node
  | creation node _ => some node
  | fixup node _ _ => some node
  | notReady node _ => some node
  | imageLoad node _ => some node
  | config _ => none
  | aborted .. => none

/-- The messages of what caused a failure, from the nearest cause on. -/
def causes : Failure → List String
  | config fault => fault.message :: fault.causes
  | creation _ source => source.messages
  | fixup _ _ source => source.messages
  | imageLoad _ source => source.messages
  | invalidRole .. => []
  | notReady .. => []
  | aborted .. => []

end Failure
end ClusterProvision
