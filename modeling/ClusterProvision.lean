import ClusterProvision.Main
import ClusterProvision.Schema.Encode
import ClusterProvision.Simulation.Session
import ClusterProvision.Status.Session
import ClusterProvision.Proofs.FanIn
import ClusterProvision.Proofs.Crew
import ClusterProvision.Proofs.Journal
import ClusterProvision.Proofs.Course
import ClusterProvision.Proofs.Waiting
import ClusterProvision.Proofs.ProbeTimes
import ClusterProvision.Proofs.PollLoop
import ClusterProvision.Proofs.Fixup
import ClusterProvision.Proofs.StepsInTurn
import ClusterProvision.Proofs.SlowSteps
import ClusterProvision.Proofs.AllOrNothing
import ClusterProvision.Proofs.Sorting
import ClusterProvision.Proofs.VirtualClock
import ClusterProvision.Proofs.TimedReference
import ClusterProvision.Proofs.Isolation
import ClusterProvision.Proofs.Patience
import ClusterProvision.Proofs.ImagePolicy
import ClusterProvision.Proofs.Naming
import ClusterProvision.Proofs.Plan
import ClusterProvision.Proofs.Numbering
import ClusterProvision.Proofs.LeastFree
import ClusterProvision.Proofs.TextNumbering
import ClusterProvision.Proofs.OrderedPlan
import ClusterProvision.Proofs.EntryBlocks
import ClusterProvision.Proofs.Roster
import ClusterProvision.Proofs.SimulatedNode
import ClusterProvision.Proofs.Utf8Order
import ClusterProvision.Proofs.Refusal
import ClusterProvision.Proofs.Reports
import ClusterProvision.Proofs.RoundTrip
import ClusterProvision.Proofs.Spelling
import ClusterProvision.Proofs.SimulatedRun
import ClusterProvision.Proofs.Listing
import ClusterProvision.Proofs.Board
import ClusterProvision.Proofs.Buckets
import ClusterProvision.Proofs.PhaseHistory
import ClusterProvision.Proofs.RoleList
import ClusterProvision.Proofs.Overflow
import ClusterProvision.Proofs.BootIds
import ClusterProvision.Proofs.Traffic
import ClusterProvision.Proofs.Flattening
import ClusterProvision.Proofs.Ranks
