import ClusterProvision.ErrorChain
import ClusterProvision.Mount
import ClusterProvision.Role

/-!
# `ClusterProvision.Provider`: what creates nodes and gets them ready

A provider has a create method for each known role, and each created node takes calls
that get it ready. What a provider does for one node is its `Behaviour`: how long each
call takes and how it ends. Nothing in it depends on other nodes. Probes of a node's
container runtime may take the probes made before into account.
-/

set_option autoImplicit false

namespace ClusterProvision

/-- What a provider is asked to create. -/
structure CreateRequest where
  name : String
  image : String
  label : String
  mounts : List Mount
  deriving DecidableEq, Repr, Inhabited

/-- The methods that create a node. -/
inductive CreateMethod where
  | loadBalancer
  | externalEtcd
  | controlPlane
  | worker
  deriving DecidableEq, Repr, Inhabited

namespace CreateMethod

/-- The name of a method. -/
def name : CreateMethod → String
  | loadBalancer => "create_load_balancer"
  | externalEtcd => "create_external_etcd"
  | controlPlane => "create_control_plane"
  | worker => "create_worker"

/-- The role that a method creates nodes of. -/
def role : CreateMethod → Role
  | loadBalancer => .externalLoadBalancer
  | externalEtcd => .externalEtcd
  | controlPlane => .controlPlane
  | worker => .worker

end CreateMethod

/-- The method that creates nodes of a role. Unknown roles have none, whatever their text. -/
def Role.createMethod? : Role → Option CreateMethod
  | .externalLoadBalancer => some .loadBalancer
  | .externalEtcd => some .externalEtcd
  | .controlPlane => some .controlPlane
  | .worker => some .worker
  | .unknown _ => none

/-- A call of a provider, or of a node that it has created. -/
inductive Call where
  | create (method : CreateMethod) (request : CreateRequest)
  | fixMounts
  | setProxy
  | signalStart
  | probe
  | loadImages
  deriving DecidableEq, Repr

/-- The name of the method that a call goes to. -/
def Call.name : Call → String
  | create method _ => method.name
  | fixMounts => "fix_mounts"
  | setProxy => "set_proxy"
  | signalStart => "signal_start"
  | probe => "probe"
  | loadImages => "load_images"

/-- How a call ends. -/
inductive Outcome where
  | success
  | failure (source : ErrorChain)
  | panic
  deriving DecidableEq, Repr

/-- What comes of a call: it ends after a delay. -/
structure Reply where
  delay : Nat := 0
  outcome : Outcome := .success
  deriving DecidableEq, Repr

/-- What comes of a probe: an answer after a delay, or none ever. -/
inductive ProbeReply where
  | answer (ready : Bool) (delay : Nat)
  | silence
  deriving DecidableEq, Repr

/-- A probe: when it was made, and what came of it. -/
structure Probe where
  start : Nat
  reply : ProbeReply
  deriving DecidableEq, Repr

/-- What comes of the probes of a node. `reply` takes the probes made before, the latest
first. After `settled` probes the replies change no more; this only matters to polling
without a pause, which would else have no bound. -/
structure Probing where
  reply : List Probe → ProbeReply
  settled : Nat := 0

namespace Probing

/-- A node that is ready at once. -/
def ready : Probing where
  reply _ := .answer true 0

/-- Replies from a list, the last of them repeated. An empty list is a node that is ready
at once. -/
def ofList (replies : List ProbeReply) : Probing where
  reply made := (replies[made.length]?.or replies.getLast?).getD (.answer true 0)
  settled := replies.length

end Probing

/-- What a provider does for one node. -/
structure Behaviour where
  create : Reply := {}
  fixMounts : Reply := {}
  setProxy : Reply := {}
  signalStart : Reply := {}
  probing : Probing := .ready
  loadImages : Reply := {}

/-- What a provider does: whether its nodes need a proxy, and what it does for the node with
a given name. -/
structure Provider where
  needProxy : Bool
  behaviour : String → Behaviour

end ClusterProvision
