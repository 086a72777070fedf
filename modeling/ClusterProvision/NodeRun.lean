import ClusterProvision.Fixup
import ClusterProvision.NodeSpec

/-!
# `ClusterProvision.NodeRun`: provisioning one node

A node is created by the method of its role and then got ready. A node of an unknown
role fails before any call.
-/

set_option autoImplicit false

namespace ClusterProvision

/-- A node that is ready for use. -/
structure ReadyNode where
  name : String
  role : Role
  /-- The time at which its last step ended. -/
  since : Nat
  deriving DecidableEq, Repr, Inhabited

namespace NodeRun

/-- What a provider is asked for to create a node. -/
def request (label : String) (spec : NodeSpec) : CreateRequest :=
  { name := spec.name, image := spec.image, label, mounts := spec.mounts }

/-- Creates a node. -/
def create (label : String) (behaviour : Behaviour) (spec : NodeSpec) : Timed Unit := do
  match spec.role.createMethod? with
  | none => Timed.fail (.invalidRole spec.name spec.role)
  | some method =>
    match ← Timed.call (.create method (request label spec)) behaviour.create with
    | .ok () => return
    | .error source => Timed.fail (.creation spec.name source)

/-- Creates a node and gets it ready. -/
def provision (settings : Settings) (provider : Provider) (label : String) (spec : NodeSpec) :
    Timed Unit := do
  let behaviour := provider.behaviour spec.name
  create label behaviour spec
  Fixup.run settings provider.needProxy spec.name behaviour

/-- The course of a node's task, given that of its work: when the work is done, the node is
ready. -/
def ofWork (spec : NodeSpec) (work : Course Unit) : Course ReadyNode :=
  { events := work.events, logs := work.logs, finish := work.finish,
    ending := match work.ending with
      | .done () => .done ⟨spec.name, spec.role, work.finish⟩
      | .failed failure => .failed failure
      | .panicked => .panicked }

/-- The course of a node's task that starts at time 0. -/
def course (settings : Settings) (provider : Provider) (label : String) (spec : NodeSpec) :
    Course ReadyNode :=
  ofWork spec (provision settings provider label spec 0)

end NodeRun
end ClusterProvision
