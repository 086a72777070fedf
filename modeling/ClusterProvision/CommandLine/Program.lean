import ClusterProvision.Cluster.File
import ClusterProvision.CommandLine.Options
import ClusterProvision.CommandLine.Report
import ClusterProvision.Provisioning
import ClusterProvision.Proxy
import ClusterProvision.Simulation.Basic

/-!
# `ClusterProvision.CommandLine.Program`: the program

The program reads a cluster's description, provisions its nodes with the simulated
provider and prints a line for each node, sorted by name. It stops at the first thing
that goes wrong: first the options, then the description, the settings and at last the
run.
-/

set_option autoImplicit false

namespace ClusterProvision.CommandLine

/-- How the program ends: its exit code, and what it prints. -/
structure Exit where
  code : UInt8
  output : String := ""
  errors : String := ""
  deriving DecidableEq, Repr

/-- The end of a run that went wrong. -/
def Exit.failure (chain : ErrorChain) : Exit := { code := 1, errors := report chain }

/-- The name and the version of the program. -/
def versionLine : String := "kindling-provisioner 0.1.0\n"

/-- The key of the label that every node of a cluster gets. -/
def labelKey : String := "io.k8s.sigs.kind.cluster"

namespace Options

/-- The name of the cluster. -/
def clusterName (options : Options) : String := options.name.getD "kind"

/-- The label for the nodes. -/
def clusterLabel (options : Options) : String :=
  options.label.getD (labelKey ++ "=" ++ options.clusterName)

end Options

/-- The line for a node. -/
def nodeLine (node : ReadyNode) : String := node.name ++ "\t" ++ node.role.wire ++ "\n"

/-- The lines for nodes, sorted by name. -/
def listing (nodes : List ReadyNode) : String :=
  String.join ((ReadyNode.byName nodes).map nodeLine)

/-- The cluster to provision: the one that the file with the given path describes, or the
default one. `read` gives the text of a file or a message. -/
def loadCluster (options : Options) (read : List UInt8 → Except String String) :
    Except ErrorChain Cluster :=
  match options.config with
  | none => .ok (Cluster.withDefaults ⟨[]⟩)
  | some path =>
    match Cluster.ofFile path (read path) with
    | .ok cluster => .ok cluster
    | .error fault =>
      .error ⟨"loading cluster config " ++ Text.shown path, fault.message :: fault.causes⟩

/-- Provisions a cluster with the simulated provider. -/
def provision (options : Options) (environment : String → Option (List UInt8))
    (settings : Settings) (cluster : Cluster) : Except ErrorChain (List ReadyNode) :=
  let simulation : Simulation := { needProxy := Proxy.ofEnvironment environment }
  let run := Provisioning.ofCluster settings simulation.provider cluster options.clusterName
    options.clusterLabel
  match run.result with
  | .ok nodes => .ok nodes
  | .error failure => .error ⟨"provisioning nodes", failure.message :: failure.causes⟩

/-- Runs with options. -/
def runOptions (options : Options) (environment : String → Option (List UInt8))
    (read : List UInt8 → Except String String) : Except ErrorChain (List ReadyNode) := do
  let cluster ← loadCluster options read
  match Settings.ofEnvironment environment with
  | .ok settings => provision options environment settings cluster
  | .error fault => .error fault.chain

/-- Runs the program. -/
def run (arguments : List String) (environment : String → Option (List UInt8))
    (read : List UInt8 → Except String String) : Exit :=
  match Request.ofArguments arguments environment with
  | .misuse => { code := 2 }
  | .help => { code := 0 }
  | .version => { code := 0, output := versionLine }
  | .run options =>
    match runOptions options environment read with
    | .ok nodes => { code := 0, output := listing nodes }
    | .error chain => .failure chain

end ClusterProvision.CommandLine
