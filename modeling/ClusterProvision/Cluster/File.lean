import ClusterProvision.Cluster.Load
import ClusterProvision.Text.Utf8

/-!
# `ClusterProvision.Cluster.File`: a cluster from a file
-/

set_option autoImplicit false

namespace ClusterProvision

/-- The cluster that a file describes, where reading the file has given its text or a
message. -/
def Cluster.ofFile (path : List UInt8) (content : Except String String) :
    Except ClusterFault Cluster :=
  match content with
  | .error message => .error (.unreadable (Text.shown path) message)
  | .ok text => Cluster.ofDocument text

end ClusterProvision
