import ClusterProvision.Proofs.Course
import ClusterProvision.Proofs.Crew

/-!
# `ClusterProvision.Proofs.AllOrNothing`: all nodes or one failure, under every schedule

A crew has a task for each of a list of jobs. A job's work may take any course: it may be
done, fail or panic, after any events and at any time. The schedule may be any sequence of
moves of the tasks and of the collector. `Crew.AllOrNothing` collects what holds of the
crew after every schedule, so in every state that a run can reach and when it returns, and
`allOrNothing_run` proves it.

The tasks that provisioning starts are of this kind (`Job.ofSpec`): what a node's work
fails with names the node.
-/

set_option autoImplicit false

namespace ClusterProvision

/-- What a task is to do: the node that it is for, and the course of its work. A failure
of the work names a node. -/
structure Job where
  spec : NodeSpec
  work : Course Unit
  blames : ∀ failure, work.ending = .failed failure → failure.node?.isSome = true

namespace Job

/-- The course of the task for a job. -/
def course (job : Job) : Course ReadyNode := NodeRun.ofWork job.spec job.work

/-- The job that provisioning has for a node. -/
def ofSpec (settings : Settings) (provider : Provider) (label : String) (spec : NodeSpec) :
    Job where
  spec
  work := NodeRun.provision settings provider label spec 0
  blames failure h := by
    rw [NodeRun.blames_provision settings provider label spec 0 failure h]
    rfl

theorem course_ofSpec (settings : Settings) (provider : Provider) (label : String)
    (spec : NodeSpec) :
    (ofSpec settings provider label spec).course = NodeRun.course settings provider label spec :=
  rfl

/-- The name and the role of the node that a job is for. -/
def node (job : Job) : String × Role := (job.spec.name, job.spec.role)

/-- The node of a job once its work is done. -/
def ready (job : Job) : ReadyNode := ⟨job.spec.name, job.spec.role, job.work.finish⟩

end Job

namespace Crew

/-- What holds of a crew for some jobs after every schedule. -/
structure AllOrNothing (jobs : List Job) (crew : Crew) : Prop where
  /-- While the collector waits, what a running task delivers finds a place in the channel. -/
  room : crew.result = none → ∀ task ∈ crew.tasks, task.ended = false → ∀ outcome,
    crew.fanIn.channel.send outcome =
      { crew.fanIn.channel with queue := crew.fanIn.channel.queue ++ [outcome] }
  /-- While the collector waits, each delivered outcome has been received once or is in the
  queue once, in the order of delivery. -/
  waiting : crew.result = none →
    crew.delivered = crew.fanIn.received.map .ok ++ crew.fanIn.channel.queue
  /-- A list of nodes that is returned is all that was delivered, in that order, and every
  job has got done. It has the names and roles of the jobs' nodes. -/
  nodes : ∀ nodes, crew.result = some (.ok nodes) →
    crew.delivered = nodes.map .ok
      ∧ (∀ job ∈ jobs, job.work.ending = .done ())
      ∧ (nodes.map ReadyNode.node).Perm (jobs.map Job.node)
  /-- A failure that is returned for a task is the first one delivered. -/
  first : ∀ failure, crew.result = some (.error failure) →
    (∀ expected received, failure ≠ .aborted expected received) →
    ∃ (before : List ReadyNode) (after : List (Except Failure ReadyNode)),
      crew.delivered = before.map .ok ++ .error failure :: after
  /-- A run is aborted only when all tasks have ended, none with a failure. It then counts
  the jobs and the nodes delivered. The other jobs, at least one, have panicked. -/
  aborted : ∀ expected received,
    crew.result = some (.error (.aborted expected received)) →
    expected = jobs.length
      ∧ (∀ task ∈ crew.tasks, task.ended = true)
      ∧ (∃ nodes : List ReadyNode, crew.delivered = nodes.map .ok ∧ nodes.length = received)
      ∧ received < jobs.length
      ∧ jobs.countP (·.work.ending = .panicked) = jobs.length - received
  /-- When all tasks have ended, the collector returns after it has emptied the queue. -/
  progress : crew.result = none → (∀ task ∈ crew.tasks, task.ended = true) →
    (crew.run (List.replicate (crew.fanIn.channel.queue.length + 1) .collect)).result.isSome
      = true

/-! ### The crew for some jobs -/

/-- The crew for some jobs after a schedule. -/
def afterSchedule (jobs : List Job) (schedule : List Move) : Crew :=
  (Crew.start (jobs.map Job.course)).run schedule

theorem kept_afterSchedule (jobs : List Job) (schedule : List Move) :
    Kept (afterSchedule jobs schedule) := (Kept.start _).run schedule

section
variable {jobs : List Job} {schedule : List Move}

/-- A delivered failure names a node. -/
theorem names_of_error_mem {failure : Failure}
    (hmem : .error failure ∈ (afterSchedule jobs schedule).delivered) :
    failure.node?.isSome = true := by
  obtain ⟨task, htask, -, hfailed⟩ := (kept_afterSchedule jobs schedule).exists_of_error_mem hmem
  obtain ⟨course, hcourse, hending⟩ := exists_course_of_task htask
  obtain ⟨job, -, rfl⟩ := List.mem_map.mp hcourse
  exact job.blames failure (NodeRun.ofWork_failed.mp (hending.trans hfailed))

/-- The jobs that have panicked are those that have delivered nothing. -/
theorem length_delivered_add_panicked_jobs
    (hended : ∀ task ∈ (afterSchedule jobs schedule).tasks, task.ended = true) :
    (afterSchedule jobs schedule).delivered.length
      + jobs.countP (·.work.ending = .panicked) = jobs.length := by
  have hlength := (kept_afterSchedule jobs schedule).length_delivered_add_panicked hended
  rw [afterSchedule, panicked_run, length_tasks_run, List.countP_map, List.length_map] at hlength
  rw [afterSchedule, ← hlength]
  congr 1
  refine List.countP_congr fun job _ => ?_
  simp [Job.course, NodeRun.ofWork_panicked]

/-- When every task has delivered a node, every job has got done. -/
theorem work_done {nodes : List ReadyNode}
    (hended : ∀ task ∈ (afterSchedule jobs schedule).tasks, task.ended = true)
    (hdelivered : (afterSchedule jobs schedule).delivered = nodes.map .ok)
    (hall : nodes.length = jobs.length) {job : Job} (hjob : job ∈ jobs) :
    job.work.ending = .done () := by
  obtain ⟨task, htask, hending⟩ := exists_task_of_course (List.mem_map_of_mem hjob)
  have htasks : nodes.length = (afterSchedule jobs schedule).tasks.length := by
    rw [hall, afterSchedule, length_tasks_run, List.length_map]
  obtain ⟨node, hdone⟩ := (kept_afterSchedule jobs schedule).done_of_all hended hdelivered htasks htask
  exact (NodeRun.ofWork_done.mp (hending.symm.trans hdone)).1

/-- When every job has got done, the delivered nodes are those of the jobs. -/
theorem nodes_perm_jobs {nodes : List ReadyNode}
    (hended : ∀ task ∈ (afterSchedule jobs schedule).tasks, task.ended = true)
    (hdelivered : (afterSchedule jobs schedule).delivered = nodes.map .ok)
    (hdone : ∀ job ∈ jobs, job.work.ending = .done ()) :
    (nodes.map ReadyNode.node).Perm (jobs.map Job.node) := by
  have hready : ∀ job ∈ jobs, job.course.ending = .done job.ready := fun job hjob =>
    NodeRun.ofWork_done.mpr ⟨hdone job hjob, rfl⟩
  have hperm := delivered_perm hready hended hdelivered
  have hnodes := hperm.map ReadyNode.node
  rw [List.map_map] at hnodes
  exact hnodes

end

/-- After every schedule, the crew for any jobs gives back all nodes or one failure. -/
theorem allOrNothing_run (jobs : List Job) (schedule : List Move) :
    AllOrNothing jobs ((Crew.start (jobs.map Job.course)).run schedule) := by
  have hkept := kept_afterSchedule jobs schedule
  have hlength : (afterSchedule jobs schedule).tasks.length = jobs.length := by
    rw [afterSchedule, length_tasks_run, List.length_map]
  show AllOrNothing jobs (afterSchedule jobs schedule)
  refine { room := ?room, waiting := hkept.delivered_of_none, nodes := ?nodes, first := ?first,
           aborted := ?aborted, progress := ?progress }
  case room =>
    intro hresult task htask hrunning
    refine hkept.books.send hresult ?_
    rw [hkept.running, List.countP_pos_iff]
    exact ⟨task, htask, by rw [hrunning]; rfl⟩
  case nodes =>
    intro nodes hresult
    obtain ⟨hdelivered, hall, hended⟩ := hkept.delivered_of_ok hresult
    have hdone : ∀ job ∈ jobs, job.work.ending = .done () := fun job hjob =>
      work_done hended hdelivered (hall.trans hlength) hjob
    exact ⟨hdelivered, hdone, nodes_perm_jobs hended hdelivered hdone⟩
  case first =>
    intro failure hresult hother
    rcases hkept.delivered_of_error hresult with ⟨later, hdelivered⟩ | ⟨haborted, -⟩
    · exact ⟨_, later, hdelivered⟩
    · exact absurd haborted (hother _ _)
  case aborted =>
    intro expected received hresult
    rcases hkept.delivered_of_error hresult with ⟨later, hdelivered⟩ | haborted
    · -- What the tasks fail with names a node, so the run was not aborted for one of them.
      have hmem : .error (.aborted expected received)
          ∈ (afterSchedule jobs schedule).delivered := by
        rw [hdelivered]
        exact List.mem_append_right _ List.mem_cons_self
      exact nomatch names_of_error_mem hmem
    · obtain ⟨hfailure, hdelivered, hmissing, hended⟩ := haborted
      cases hfailure
      have hpanicked := length_delivered_add_panicked_jobs hended
      rw [hdelivered, List.length_map] at hpanicked
      rw [hlength] at hmissing
      exact ⟨hlength, hended, ⟨_, hdelivered, rfl⟩, hmissing, by omega⟩
  case progress =>
    intro hresult hended
    exact isSome_run_collect (hkept.running_eq_zero hended) (Nat.lt_succ_self _)

end Crew
end ClusterProvision
