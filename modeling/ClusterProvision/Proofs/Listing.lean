import ClusterProvision.CommandLine.Program
import ClusterProvision.Proofs.Refusal
import ClusterProvision.Proofs.Roster
import ClusterProvision.Proofs.SimulatedNode
import ClusterProvision.Proofs.Utf8Order

/-!
# `ClusterProvision.Proofs.Listing`: what the program prints

The program prints a line for each node, by name. The names and roles follow from the number
of nodes of each known role (`roster`), and they are all different, so there is one way to
list them (`CommandLine.table`). Neither the order of the roles nor the order in which the
nodes become ready has a part in that: `CommandLine.listing_eq_table`.

The program prints nothing for a cluster that is `Cluster.Refused`, and provisions every other
cluster. `CommandLine.run_output` puts this together for a whole run of the program.
-/

set_option autoImplicit false

namespace ClusterProvision

/-! ### Listing by name -/

theorem nodup_roster (cluster : String) (headcount : Role → Nat) :
    ((roster cluster headcount).map Prod.fst).Nodup := by
  rw [roster, List.map_flatMap, List.nodup_flatMap]
  -- The names of one role have different numbers, and known roles do not share names.
  refine ⟨?_, ?_⟩
  · intro role _
    rw [List.map_map]
    exact List.Nodup.map (fun _ _ => candidateName_inj) List.nodup_range'
  · refine List.Nodup.pairwise_of_forall_ne (show Role.known.Nodup by decide) ?_
    intro first hfirst second hsecond hne
    refine List.disjoint_left.mpr fun name hname hother => ?_
    simp only [List.map_map, List.mem_map, Function.comp_apply] at hname hother
    obtain ⟨j, -, rfl⟩ := hname
    obtain ⟨k, -, hk⟩ := hother
    exact hne (Role.separate_known.candidateName_inj hsecond hfirst hk).1.symm

namespace CommandLine

/-- The line for a node with a name and a role. -/
def line (node : String × Role) : String := node.1 ++ "\t" ++ node.2.wire ++ "\n"

/-- The names and roles of a cluster's nodes, by name. -/
def rows (cluster : String) (headcount : Role → Nat) : List (String × Role) :=
  (roster cluster headcount).mergeSort fun a b => decide (a.1 ≤ b.1)

/-- The lines for a cluster's nodes, from the number of nodes of each known role. -/
def table (cluster : String) (headcount : Role → Nat) : String :=
  String.join ((rows cluster headcount).map line)

section
variable (cluster : String) (headcount : Role → Nat)

theorem rows_perm : (rows cluster headcount).Perm (roster cluster headcount) :=
  List.mergeSort_perm _ _

theorem nodup_rows : ((rows cluster headcount).map Prod.fst).Nodup :=
  ((rows_perm cluster headcount).map Prod.fst).nodup_iff.mpr (nodup_roster cluster headcount)

end

/-- The rows come in the order of the bytes of their names, no name twice. -/
theorem rows_ascending (cluster : String) (headcount : Role → Nat) :
    (rows cluster headcount).Pairwise fun a b => Text.toUtf8 a.1 < Text.toUtf8 b.1 := by
  have hsorted := sorted_mergeSort Prod.fst (roster cluster headcount)
  have hdistinct := List.pairwise_map.mp (nodup_rows cluster headcount)
  exact (hsorted.and hdistinct).imp fun h => Text.toUtf8_lt_toUtf8 (Std.lt_of_le_of_ne h.1 h.2)

/-- There is one way to list nodes with different names. -/
theorem listing_eq_table {cluster : String} {headcount : Role → Nat} {nodes : List ReadyNode}
    (h : (nodes.map ReadyNode.node).Perm (roster cluster headcount)) :
    listing nodes = table cluster headcount := by
  have hperm : ((ReadyNode.byName nodes).map ReadyNode.node).Perm (rows cluster headcount) :=
    (((List.mergeSort_perm nodes _).map ReadyNode.node).trans h).trans
      (rows_perm cluster headcount).symm
  have hsorted : ((ReadyNode.byName nodes).map ReadyNode.node).Pairwise (·.1 ≤ ·.1) :=
    List.pairwise_map.mpr (sorted_mergeSort ReadyNode.name nodes)
  -- Two lists of the same rows in order of their names are equal, as no name comes twice.
  have hrows : (ReadyNode.byName nodes).map ReadyNode.node = rows cluster headcount := by
    refine hperm.eq_of_pairwise ?_ hsorted (sorted_mergeSort Prod.fst _)
    intro a b ha hb hab hba
    exact List.inj_on_of_nodup_map (nodup_rows cluster headcount) (hperm.mem_iff.mp ha) hb
      (String.le_antisymm hab hba)
  rw [table, ← hrows, List.map_map]
  rfl

end CommandLine

/-! ### Nodes that all get ready -/

/-- When every node gets ready, a collector that has returned has returned all of them, under
every schedule. -/
theorem Crew.nodes_of_returned {alone : NodeSpec → Course ReadyNode} {specs : List NodeSpec}
    {ready : NodeSpec → ReadyNode}
    (hready : ∀ spec ∈ specs, (alone spec).ending = .done (ready spec)) (schedule : List Move)
    {result : Except Failure (List ReadyNode)}
    (hresult : ((Crew.start (specs.map alone)).run schedule).result = some result) :
    ∃ nodes, result = .ok nodes ∧ nodes.Perm (specs.map ready) := by
  have hdone : ∀ course ∈ specs.map alone, ∃ node, course.ending = .done node := by
    intro course hcourse
    obtain ⟨spec, hspec, rfl⟩ := List.mem_map.mp hcourse
    exact ⟨_, hready spec hspec⟩
  obtain ⟨nodes, rfl⟩ := (ok_iff_courses_done hresult).mpr hdone
  obtain ⟨hdelivered, -, hended⟩ :=
    ((Kept.start (specs.map alone)).run schedule).delivered_of_ok hresult
  exact ⟨nodes, rfl, delivered_perm hready hended hdelivered⟩

namespace Provisioning

/-- A crew for nodes of known roles, whose provider has no faults, returns nodes with the names
and roles of the roster, under every schedule. -/
theorem nodes_perm_roster {settings : Settings} (htime : 0 < settings.readyTimeout)
    {simulation : Simulation} (hfaults : simulation.faults = []) (label : String)
    {cluster : Cluster}
    (hknown : ∀ entry ∈ cluster.nodes, 1 ≤ entry.count → entry.role.isKnown = true)
    (name : String) (order : RoleOrder) (schedule : List Move)
    {result : Except Failure (List ReadyNode)}
    (hresult : ((Crew.start ((NodeSpec.nameAll (Namer.new name)
      (NodeSpec.sort order cluster.unnamed)).map
        (NodeRun.course settings simulation.provider label))).run schedule).result
      = some result) :
    ∃ nodes, result = .ok nodes
      ∧ (nodes.map ReadyNode.node).Perm (roster name cluster.headcount) := by
  have hready : ∀ spec ∈ NodeSpec.nameAll (Namer.new name) (NodeSpec.sort order cluster.unnamed),
      (NodeRun.course settings simulation.provider label spec).ending
        = .done ⟨spec.name, spec.role,
          (NodeRun.course settings simulation.provider label spec).finish⟩ := by
    intro spec hspec
    obtain ⟨unnamed, hunnamed, hrole⟩ := Cluster.exists_role_of_mem_plan hspec
    have hgets : simulation.GetsReady settings spec := by
      refine ⟨?_, by simp [Simulation.fault?, hfaults]⟩
      rw [← hrole]
      exact Cluster.isKnown_of_mem_unnamed hknown unnamed hunnamed
    obtain ⟨node, hnode⟩ :=
      (Simulation.foreseen_course htime simulation label spec).ready.mpr hgets
    rw [hnode, (NodeRun.isFor_course settings simulation.provider label spec).ready node hnode]
  obtain ⟨nodes, hok, hperm⟩ := Crew.nodes_of_returned hready schedule hresult
  refine ⟨nodes, hok, (hperm.map ReadyNode.node).trans ?_⟩
  rw [List.map_map]
  exact Cluster.nodes_plan_perm hknown name order

end Provisioning

/-! ### The program -/

theorem Settings.readyTimeout_of_environment {environment : String → Option (List UInt8)}
    {settings : Settings} (h : Settings.ofEnvironment environment = .ok settings) :
    settings.readyTimeout = 30000 := by
  unfold ofEnvironment ofLookup at h
  dsimp only at h
  split at h
  · exact nomatch h
  · cases hroles : choose Role.known parseRoles (textOf environment orderVariable) with
    | error fault =>
      rw [hroles] at h
      exact nomatch h
    | ok roles =>
      rw [hroles] at h
      cases h
      rfl

/-- Results can be told apart by what they hold. -/
theorem eq_ok_of_toOption {ε α : Type} {result : Except ε α} {a : α}
    (h : result.toOption = some a) : result = .ok a := by
  cases result with
  | ok b => exact congrArg Except.ok (Option.some.inj h)
  | error e => exact nomatch h

namespace CommandLine

/-- What the program makes of the result of a run. -/
def Exit.ofResult : Except Failure (List ReadyNode) → Exit
  | .ok nodes => { code := 0, output := listing nodes }
  | .error failure => .failure ⟨"provisioning nodes", failure.message :: failure.causes⟩

variable {arguments : List String} {environment : String → Option (List UInt8)}
  {read : List UInt8 → Except String String} {options : Options} {cluster : Cluster}
  {settings : Settings}

theorem run_eq_ofResult (hrequest : Request.ofArguments arguments environment = .run options)
    (hcluster : loadCluster options read = .ok cluster)
    (hsettings : Settings.ofEnvironment environment = .ok settings) :
    run arguments environment read
      = Exit.ofResult (Provisioning.ofCluster settings
          (Simulation.provider { needProxy := Proxy.ofEnvironment environment }) cluster
          options.clusterName options.clusterLabel).result := by
  have hrun : runOptions options environment read
      = provision options environment settings cluster := by
    rw [runOptions, hcluster, hsettings]
    rfl
  rw [run, hrequest]
  dsimp only
  rw [hrun, provision]
  cases (Provisioning.ofCluster settings
      (Simulation.provider { needProxy := Proxy.ofEnvironment environment }) cluster
      options.clusterName options.clusterLabel).result <;> rfl

/-- The program ends with an error and prints nothing for a cluster that is refused. -/
theorem run_of_refused (hrequest : Request.ofArguments arguments environment = .run options)
    (hcluster : loadCluster options read = .ok cluster)
    (hsettings : Settings.ofEnvironment environment = .ok settings) (h : cluster.Refused) :
    (run arguments environment read).code = 1 ∧ (run arguments environment read).output = "" := by
  rw [run_eq_ofResult hrequest hcluster hsettings]
  obtain ⟨failure, hfailure⟩ : ∃ failure, (Provisioning.ofCluster settings
      (Simulation.provider { needProxy := Proxy.ofEnvironment environment }) cluster
      options.clusterName options.clusterLabel).result = .error failure := by
    -- The check comes first, so a fault is reported whatever the roles are.
    rcases cluster.validate_cases with ⟨fault, hfault⟩ | hvalid
    · refine ⟨.config fault, ?_⟩
      rw [Provisioning.ofCluster, Provisioning.plan, hfault]
      rfl
    · obtain ⟨entry, hentry, hcount, hunknown⟩ : ∃ entry ∈ cluster.nodes,
          1 ≤ entry.count ∧ entry.role.isKnown = false := by
        rcases h with ⟨fault, hfault⟩ | hunknown
        · rw [hvalid] at hfault
          cases hfault
        · exact hunknown
      rw [Provisioning.result_ofCluster_of_plan (Provisioning.plan_of_validate hvalid _ _)]
      exact Provisioning.outcome_of_unknown
        (Cluster.exists_unknown_plan hentry hcount hunknown _ _)
  rw [hfailure]
  exact ⟨rfl, rfl⟩

/-- The program prints the table of a cluster that is not refused. -/
theorem run_of_not_refused (hrequest : Request.ofArguments arguments environment = .run options)
    (hcluster : loadCluster options read = .ok cluster)
    (hsettings : Settings.ofEnvironment environment = .ok settings) (h : ¬ cluster.Refused) :
    (run arguments environment read).code = 0
      ∧ (run arguments environment read).output
        = table options.clusterName cluster.headcount := by
  rw [run_eq_ofResult hrequest hcluster hsettings]
  obtain ⟨hvalid, hknown⟩ := cluster.of_not_refused h
  rw [Provisioning.result_ofCluster_of_plan (Provisioning.plan_of_validate hvalid _ _)]
  obtain ⟨result, hresult, houtcome⟩ := Provisioning.exists_outcome settings
    (Simulation.provider { needProxy := Proxy.ofEnvironment environment }) options.clusterLabel
    (NodeSpec.nameAll (Namer.new options.clusterName)
      (NodeSpec.sort ⟨settings.roleOrder⟩ cluster.unnamed))
  -- The environment does not set the timeout, and its default is not zero.
  have htime : 0 < settings.readyTimeout := by
    rw [Settings.readyTimeout_of_environment hsettings]
    decide
  obtain ⟨nodes, rfl, hperm⟩ := Provisioning.nodes_perm_roster htime rfl _ hknown _ _ _ hresult
  rw [houtcome]
  exact ⟨rfl, listing_eq_table hperm⟩

/-- What the program prints for a cluster with a name. -/
structure Prints (name : String) (cluster : Cluster) (exit : Exit) : Prop where
  /-- A cluster that is refused ends the program with an error, and nothing is printed. -/
  refused : cluster.Refused → exit.code = 1 ∧ exit.output = ""
  /-- For every other cluster the table is printed, which is given by the name and the number
  of nodes of each known role. -/
  listed : ¬ cluster.Refused → exit.code = 0 ∧ exit.output = table name cluster.headcount
  /-- The table has a line for each node of the roster, by the bytes of the names. -/
  lines : ∃ nodes : List (String × Role),
    table name cluster.headcount = String.join (nodes.map line)
      ∧ nodes.Perm (roster name cluster.headcount)
      ∧ nodes.Pairwise fun a b => Text.toUtf8 a.1 < Text.toUtf8 b.1
  /-- It is what any crew for the cluster would have listed once its collector has returned:
  under any settings that leave the nodes time, any simulated provider without faults, and any
  order in which the tasks and the collector move. -/
  anyOrder : ¬ cluster.Refused → ∀ (settings : Settings) (simulation : Simulation)
    (label : String), 0 < settings.readyTimeout → simulation.faults = [] →
    ∃ specs, Provisioning.plan cluster name ⟨settings.roleOrder⟩ = .ok specs
      ∧ ∀ schedule result,
        ((Crew.start (specs.map (NodeRun.course settings simulation.provider label))).run
          schedule).result = some result →
        ∃ nodes, result = .ok nodes ∧ listing nodes = exit.output

/-- What the program prints depends on the cluster's name and counts only. -/
theorem run_output (hrequest : Request.ofArguments arguments environment = .run options)
    (hcluster : loadCluster options read = .ok cluster)
    (hsettings : Settings.ofEnvironment environment = .ok settings) :
    Prints options.clusterName cluster (run arguments environment read) where
  refused := run_of_refused hrequest hcluster hsettings
  listed := run_of_not_refused hrequest hcluster hsettings
  lines := ⟨rows options.clusterName cluster.headcount, rfl, rows_perm _ _, rows_ascending _ _⟩
  anyOrder := by
    intro h other simulation label htime hfaults
    obtain ⟨hvalid, hknown⟩ := cluster.of_not_refused h
    refine ⟨_, Provisioning.plan_of_validate hvalid _ _, ?_⟩
    intro schedule result hresult
    obtain ⟨nodes, hok, hperm⟩ :=
      Provisioning.nodes_perm_roster htime hfaults label hknown _ _ schedule hresult
    refine ⟨nodes, hok, ?_⟩
    rw [(run_of_not_refused hrequest hcluster hsettings h).2]
    exact listing_eq_table hperm

/-- A description with entries of two known roles, and one of an unknown role without nodes. -/
def sampleText : String :=
  "[[nodes]]\nrole = \"worker\"\nimage = \"a\"\nreplicas = 2\n\n"
    ++ "[[nodes]]\nrole = \"edge\"\nimage = \"b\"\nreplicas = 0\n\n"
    ++ "[[nodes]]\nrole = \"control-plane\"\nimage = \"c\"\n"

/-- The cluster that it describes. -/
def sampleCluster : Cluster :=
  ⟨[{ role := .worker, image := "a", replicas := some 2 },
    { role := .unknown "edge", image := "b", replicas := some 0 },
    { role := .controlPlane, image := "c" }]⟩

/-- An environment with an order of roles and a proxy. -/
def sampleEnvironment (name : String) : Option (List UInt8) :=
  if name = Settings.orderVariable then some (Text.toUtf8 "worker, control-plane")
  else if name = "HTTPS_PROXY" then some (Text.toUtf8 "p")
  else none

/-- The options that the sample run is started with. -/
def sampleOptions : Options := { config := some (Text.toUtf8 "c.toml"), name := some "k" }

theorem run_output_sample :
    Request.ofArguments ["--config", "c.toml", "--name=k"] sampleEnvironment = .run sampleOptions
      ∧ loadCluster sampleOptions (fun _ => .ok sampleText) = .ok sampleCluster
      ∧ Settings.ofEnvironment sampleEnvironment
        = .ok { roleOrder := [.worker, .controlPlane] }
      ∧ Prints "k" sampleCluster
        (run ["--config", "c.toml", "--name=k"] sampleEnvironment fun _ => .ok sampleText) := by
  have hrequest : Request.ofArguments ["--config", "c.toml", "--name=k"] sampleEnvironment
      = .run sampleOptions := by decide +kernel
  have hcluster : loadCluster sampleOptions (fun _ => .ok sampleText) = .ok sampleCluster :=
    eq_ok_of_toOption (by decide +kernel)
  have hsettings : Settings.ofEnvironment sampleEnvironment
      = .ok { roleOrder := [.worker, .controlPlane] } := eq_ok_of_toOption (by decide +kernel)
  exact ⟨hrequest, hcluster, hsettings, run_output hrequest hcluster hsettings⟩

end CommandLine

end ClusterProvision
