/-!
# `ClusterProvision.Role`: what a node is for

Four roles have a name of their own on the wire. Every other name is kept as an
unknown role, so reading a role never fails. Writing and reading again gives the
same role except for an unknown role that carries one of the four known names:
those are the roles that are not `Role.Canonical`, and no reading produces one
(`Role.canonical_ofWire`).
-/

set_option autoImplicit false

namespace ClusterProvision

/-- What a node is for. `unknown` carries the text it was written as. -/
inductive Role where
  | externalLoadBalancer
  | externalEtcd
  | controlPlane
  | worker
  | unknown (text : String)
  deriving DecidableEq, Repr, Inhabited

namespace Role

/-- The text of a role in documents, names and messages. -/
def wire : Role → String
  | externalLoadBalancer => "external-load-balancer"
  | externalEtcd => "external-etcd"
  | controlPlane => "control-plane"
  | worker => "worker"
  | unknown text => text

/-- The role that a text stands for. -/
def ofWire (text : String) : Role :=
  if text = "external-load-balancer" then externalLoadBalancer
  else if text = "external-etcd" then externalEtcd
  else if text = "control-plane" then controlPlane
  else if text = "worker" then worker
  else unknown text

/-- The four roles a provider can create, in the order in which they come up by default. -/
def known : List Role := [externalLoadBalancer, externalEtcd, controlPlane, worker]

/-- Whether a role is one of the four known ones. -/
def isKnown : Role → Bool
  | unknown _ => false
  | _ => true

/-- A role as reading produces it: no unknown role carries a known name. -/
def Canonical (r : Role) : Prop := ofWire r.wire = r

instance (r : Role) : Decidable r.Canonical := inferInstanceAs (Decidable (ofWire r.wire = r))

theorem wire_ofWire (text : String) : (ofWire text).wire = text := by
  unfold ofWire
  repeat' split
  all_goals simp_all [wire]

theorem canonical_ofWire (text : String) : (ofWire text).Canonical := by
  rw [Canonical, wire_ofWire]

theorem canonical_of_isKnown {r : Role} (h : r.isKnown = true) : r.Canonical := by
  cases r <;> first | rfl | simp [isKnown] at h

end Role
end ClusterProvision
