import ClusterProvision.Proofs.StepsInTurn

/-!
# `ClusterProvision.Proofs.SlowSteps`: steps that take longer

The time that a node is given to get ready counts from the end of its signal. So steps that take
longer before it, or after it, do not use up any of that time. Two nodes that differ in nothing but
how long their steps take are treated alike, call by call, and each is given up or kept for the same
reason.

A wait that starts later, with a deadline as much later, is the same wait at a later time
(`Readiness.wait_later`). For this the replies must not depend on the clock (`Probing.Timeless`).
Replies from a list do not (`Probing.timeless_ofList`).

What a step does is then the same at any time and for any delays: `Job.clears_slowed`,
`Job.map_calls_slowed` and `Job.finish_slowed` say this for one step, `Job.clearsAll_slowed`,
`Job.map_callsAll_slowed` and `Job.finishAll_slowed` for steps in turn. Where the probes are among
the calls of steps in turn, and that they come after the signal, is a matter of the order of the
steps (`Job.filter_callsAll`, `Job.exists_signal`). `equallyPatient_run` is what it comes to for all
the work on a node.
-/

set_option autoImplicit false

namespace ClusterProvision

/-! ### A wait at a later time -/

/-- The same probe at a later time. -/
def Probe.later (shift : Nat) (probe : Probe) : Probe := { probe with start := probe.start + shift }

/-- The same wait at a later time. -/
def Wait.later (shift : Nat) (wait : Wait) : Wait :=
  { ready := wait.ready, finish := wait.finish + shift, probes := wait.probes.map (.later shift) }

/-- What comes of a probe does not depend on the clock. It may depend on the probes before, and on
the times between them. -/
def Probing.Timeless (probing : Probing) : Prop :=
  ∀ shift made, probing.reply (made.map (.later shift)) = probing.reply made

/-- Replies from a list depend on nothing but the number of the probe. -/
theorem Probing.timeless_ofList (replies : List ProbeReply) : (ofList replies).Timeless := by
  intro shift made
  simp only [ofList, List.length_map]

namespace Readiness

section
variable {probing : Probing} (htimeless : probing.Timeless) (deadline interval shift : Nat)
include htimeless

/-- All comparisons of a round are between times that are later by the same shift. -/
theorem poll_later (rounds : Nat) (made : List Probe) (now : Nat) :
    poll probing (deadline + shift) interval rounds (made.map (.later shift)) (now + shift)
      = (poll probing deadline interval rounds made now).later shift := by
  -- A round makes one more probe and moves the clock, so both are general here.
  induction rounds generalizing made now with
  | zero =>
    simp only [poll, Wait.later, List.map_reverse]
    rw [Nat.add_max_add_right]
  | succ rounds ih =>
    have hprobe : ∀ reply, (⟨now + shift, reply⟩ :: made.map (.later shift) : List Probe)
        = (⟨now, reply⟩ :: made : List Probe).map (.later shift) := fun _ => rfl
    unfold poll
    rw [htimeless shift made]
    by_cases hpast : deadline ≤ now
    · rw [if_pos hpast, if_pos (by omega)]
      simp only [Wait.later, List.map_reverse]
    rw [if_neg hpast, if_neg (by omega)]
    cases probing.reply made with
    | silence => simp only [hprobe, Wait.later, List.map_reverse]
    | answer ready delay =>
      dsimp only
      by_cases hlate : deadline < now + delay
      · rw [if_pos hlate, if_pos (by omega)]
        simp only [hprobe, Wait.later, List.map_reverse]
      rw [if_neg hlate, if_neg (by omega)]
      have hanswer : now + shift + delay = now + delay + shift := by omega
      cases ready with
      | true => simp only [hprobe, hanswer, Wait.later, List.map_reverse, if_true]
      | false =>
        simp only [Bool.false_eq_true, if_false, hprobe, hanswer]
        by_cases hover : deadline ≤ now + delay
        · rw [if_pos hover, if_pos (by omega)]
          simp only [Wait.later, List.map_reverse]
        · -- The pause is cut short at the same point, too.
          have hpause : now + delay + shift
                + min interval (deadline + shift - (now + delay + shift))
              = now + delay + min interval (deadline - (now + delay)) + shift := by omega
          rw [if_neg hover, if_neg (by omega), hpause]
          exact ih _ _

/-- A wait with a later start, and a deadline as much later, is the same wait at a later time. -/
theorem wait_later (start : Nat) :
    wait probing (start + shift) (deadline + shift) interval
      = (wait probing start deadline interval).later shift := by
  have hpoll := poll_later htimeless deadline interval shift
    (deadline - start + probing.settled) [] start
  rw [wait, wait, Nat.add_sub_add_right]
  exact hpoll

end

end Readiness

/-! ### Nodes that take longer -/

/-- Two behaviours that differ in nothing but how long their calls take, for the calls that get a
node ready. The probes are the same, with their delays. -/
structure Behaviour.SameButDelays (behaviour other : Behaviour) : Prop where
  fixMounts : other.fixMounts.outcome = behaviour.fixMounts.outcome
  setProxy : other.setProxy.outcome = behaviour.setProxy.outcome
  signalStart : other.signalStart.outcome = behaviour.signalStart.outcome
  probing : other.probing = behaviour.probing
  loadImages : other.loadImages.outcome = behaviour.loadImages.outcome

theorem Behaviour.SameButDelays.neverPanics {behaviour other : Behaviour}
    (h : behaviour.SameButDelays other) (hpanics : behaviour.NeverPanics) : other.NeverPanics where
  fixMounts := by rw [h.fixMounts]; exact hpanics.fixMounts
  setProxy := by rw [h.setProxy]; exact hpanics.setProxy
  signalStart := by rw [h.signalStart]; exact hpanics.signalStart
  loadImages := by rw [h.loadImages]; exact hpanics.loadImages

namespace Behaviour

/-- How long a call takes that is a step of its own. The probes are none: the wait has them. -/
def stepDelay (behaviour : Behaviour) : Call → Nat
  | .create .. => 0
  | .fixMounts => behaviour.fixMounts.delay
  | .setProxy => behaviour.setProxy.delay
  | .signalStart => behaviour.signalStart.delay
  | .probe => 0
  | .loadImages => behaviour.loadImages.delay

/-- How long the steps take that have been called, all together. -/
def spent (behaviour : Behaviour) : List (Nat × Call) → Nat
  | [] => 0
  | call :: calls => behaviour.stepDelay call.2 + behaviour.spent calls

theorem spent_append (behaviour : Behaviour) (calls others : List (Nat × Call)) :
    behaviour.spent (calls ++ others) = behaviour.spent calls + behaviour.spent others := by
  induction calls with
  | nil => rw [List.nil_append, spent, Nat.zero_add]
  | cons call calls ih => rw [List.cons_append, spent, spent, ih, Nat.add_assoc]

theorem spent_probes (behaviour : Behaviour) (probes : List Probe) :
    behaviour.spent (probes.map fun probe => (probe.start, .probe)) = 0 := by
  induction probes with
  | nil => rfl
  | cons probe probes ih => rw [List.map_cons, spent, ih, stepDelay]

end Behaviour

/-- The times of the probes of a course, measured from a time on. -/
def Course.probesSince {α : Type} (course : Course α) (time : Nat) : List Int :=
  (course.calls.filter (·.2 = .probe)).map fun call => (call.1 : Int) - time

namespace Fixup
namespace Job

/-- The same work on a node with another behaviour. -/
def slowed (job : Job) (other : Behaviour) : Job := { job with behaviour := other }

/-! ### One step -/

section
variable {job : Job} {other : Behaviour} (h : job.behaviour.SameButDelays other)
  (htimeless : job.behaviour.probing.Timeless)

include htimeless in
/-- Only the time of a wait depends on when it starts. -/
theorem wait_eq_later (since : Nat) : job.wait since = (job.wait 0).later since := by
  have hwait := Readiness.wait_later htimeless job.settings.readyTimeout job.settings.pollInterval
    since 0
  rw [Nat.zero_add, Nat.add_comm] at hwait
  rw [wait, wait, waitAfter, waitAfter, hwait, Nat.zero_add]

/-- A step has one failure only. -/
theorem FailsAt.unique {step : Step} {first second : Failure} (hfirst : job.FailsAt step first)
    (hsecond : job.FailsAt step second) : first = second := by
  cases step with
  | waitForDocker => exact Eq.trans hfirst (Eq.symm hsecond)
  | _ =>
    obtain ⟨source, hreply, rfl⟩ := hfirst
    obtain ⟨source', hreply', rfl⟩ := hsecond
    cases Outcome.failure.inj (hreply.symm.trans hreply')
    rfl

include h in
/-- What a step fails with does not depend on its delay. -/
theorem failsAt_slowed {step : Step} {failure : Failure} :
    (job.slowed other).FailsAt step failure ↔ job.FailsAt step failure := by
  cases step with
  | fixMounts =>
    show (∃ source, other.fixMounts.outcome = _ ∧ _) ↔ _
    rw [h.fixMounts]
    rfl
  | setProxy =>
    show (∃ source, other.setProxy.outcome = _ ∧ _) ↔ _
    rw [h.setProxy]
    rfl
  | signalStart =>
    show (∃ source, other.signalStart.outcome = _ ∧ _) ↔ _
    rw [h.signalStart]
    rfl
  | waitForDocker => exact Iff.rfl
  | loadImages =>
    show (∃ source, other.loadImages.outcome = _ ∧ _) ↔ _
    rw [h.loadImages]
    rfl

include h in
/-- The delays of the probes are the same. -/
theorem wait_slowed (since : Nat) : (job.slowed other).wait since = job.wait since := by
  show Readiness.wait other.probing _ _ _ = _
  rw [h.probing]
  rfl

variable (now later : Nat) (step : Step)
include h htimeless

/-- The work goes on after a step at any time, and whatever the delays, or at none. -/
theorem clears_slowed : (job.slowed other).Clears later step ↔ job.Clears now step := by
  cases step with
  | fixMounts =>
    show other.fixMounts.outcome = _ ↔ _
    rw [h.fixMounts]
    rfl
  | setProxy =>
    show (_ → other.setProxy.outcome = _) ↔ _
    rw [h.setProxy]
    rfl
  | signalStart =>
    show other.signalStart.outcome = _ ↔ _
    rw [h.signalStart]
    rfl
  | waitForDocker =>
    show ((job.slowed other).wait later).ready = true ↔ (job.wait now).ready = true
    rw [wait_slowed h, wait_eq_later htimeless later, wait_eq_later htimeless now]
    rfl
  | loadImages =>
    show other.loadImages.outcome = _ ∨ _ ↔ _
    rw [h.loadImages]
    rfl

/-- A step makes the same calls. -/
theorem map_calls_slowed :
    ((job.slowed other).calls later step).map Prod.snd = (job.calls now step).map Prod.snd := by
  cases step with
  | setProxy =>
    show ((if job.needProxy then _ else _ : List (Nat × Call)).map Prod.snd) = _
    cases hproxy : job.needProxy <;> simp [calls, hproxy]
  | waitForDocker =>
    simp only [calls]
    rw [wait_slowed h, wait_eq_later htimeless later, wait_eq_later htimeless now]
    simp [Wait.later, Function.comp_def]
  | _ => rfl

/-- A step ends as much later as it starts later and takes longer. -/
theorem finish_slowed :
    (job.slowed other).finish later step + now + job.behaviour.spent (job.calls now step)
      = job.finish now step + later + other.spent ((job.slowed other).calls later step) := by
  cases step with
  | setProxy =>
    cases hproxy : job.needProxy with
    | false => simp [finish, calls, slowed, hproxy, Behaviour.spent, Nat.add_comm]
    | true =>
      simp only [finish, calls, slowed, hproxy, if_true, Behaviour.spent, Behaviour.stepDelay]
      omega
  | waitForDocker =>
    simp only [finish, calls, Behaviour.spent_probes]
    rw [wait_slowed h, wait_eq_later htimeless later, wait_eq_later htimeless now]
    simp only [Wait.later]
    omega
  | _ =>
    simp only [finish, calls, slowed, Behaviour.spent, Behaviour.stepDelay]
    omega

end

/-! ### Steps in turn -/

section
variable {job : Job} {other : Behaviour} (h : job.behaviour.SameButDelays other)
  (htimeless : job.behaviour.probing.Timeless) (now later : Nat) (steps : List Step)
include h htimeless

theorem clearsAll_slowed :
    (job.slowed other).ClearsAll later steps ↔ job.ClearsAll now steps := by
  induction steps generalizing now later with
  | nil => exact Iff.rfl
  | cons step steps ih => exact and_congr (clears_slowed h htimeless now later step) (ih _ _)

theorem map_callsAll_slowed :
    ((job.slowed other).callsAll later steps).map Prod.snd
      = (job.callsAll now steps).map Prod.snd := by
  induction steps generalizing now later with
  | nil => rfl
  | cons step steps ih =>
    rw [callsAll, callsAll, List.map_append, List.map_append,
      map_calls_slowed h htimeless now later step, ih]

theorem finishAll_slowed :
    (job.slowed other).finishAll later steps + now + job.behaviour.spent (job.callsAll now steps)
      = job.finishAll now steps + later
        + other.spent ((job.slowed other).callsAll later steps) := by
  -- All terms are on the side where they are added: times and delays are natural numbers.
  induction steps generalizing now later with
  | nil =>
    simp only [finishAll, callsAll, Behaviour.spent]
    omega
  | cons step steps ih =>
    have hstep := finish_slowed h htimeless now later step
    have hrest := ih (job.finish now step) ((job.slowed other).finish later step)
    simp only [finishAll, callsAll, Behaviour.spent_append]
    omega

end

/-! ### The signal and the probes -/

/-- A step makes no call but its own. -/
theorem call_of_mem_calls {job : Job} {now time : Nat} {step : Step} {c : Call}
    (h : (time, c) ∈ job.calls now step) : c = step.call := by
  cases step with
  | setProxy =>
    rw [calls] at h
    split at h
    · exact congrArg Prod.snd (List.mem_singleton.mp h)
    · cases h
  | waitForDocker =>
    obtain ⟨probe, -, hprobe⟩ := List.mem_map.mp h
    exact (congrArg Prod.snd hprobe).symm
  | _ => exact congrArg Prod.snd (List.mem_singleton.mp h)

theorem callsAll_append (job : Job) (now : Nat) (before after : List Step) :
    job.callsAll now (before ++ after)
      = job.callsAll now before ++ job.callsAll (job.finishAll now before) after := by
  induction before generalizing now with
  | nil => rfl
  | cons step before ih =>
    rw [List.cons_append, callsAll, ih, callsAll, finishAll, List.append_assoc]

/-- A call is made by one of the steps, which begins at the end of the steps before it. -/
theorem exists_of_mem_callsAll {job : Job} {now time : Nat} {steps : List Step} {c : Call}
    (h : (time, c) ∈ job.callsAll now steps) :
    ∃ before step after, steps = before ++ step :: after ∧ c = step.call
      ∧ (time, c) ∈ job.calls (job.finishAll now before) step := by
  induction steps generalizing now with
  | nil => cases h
  | cons first steps ih =>
    rcases List.mem_append.mp h with hfirst | hrest
    · exact ⟨[], first, steps, rfl, call_of_mem_calls hfirst, hfirst⟩
    · obtain ⟨before, step, after, rfl, hcall⟩ := ih hrest
      exact ⟨first :: before, step, after, rfl, hcall⟩

/-- Steps without the wait make no probes. -/
theorem filter_callsAll_of_notMem {job : Job} {now : Nat} {steps : List Step}
    (h : .waitForDocker ∉ steps) : (job.callsAll now steps).filter (·.2 = .probe) = [] := by
  rw [List.filter_eq_nil_iff]
  rintro ⟨time, c⟩ hmem hprobe
  obtain ⟨before, step, after, rfl, hc, -⟩ := exists_of_mem_callsAll hmem
  obtain rfl : c = .probe := of_decide_eq_true hprobe
  refine h ?_
  cases step with
  | waitForDocker => exact List.mem_append_right _ List.mem_cons_self
  | _ => cases hc

/-- The steps up to an end of the work come in their order. -/
theorem eq_earlier {before after : List Step} {step : Step}
    (h : before ++ step :: after <+: Step.all) : before = step.earlier := by
  obtain ⟨rest, hrest⟩ := h
  rw [List.append_assoc, List.cons_append] at hrest
  exact (Step.earlier_eq hrest.symm).symm

section
variable (job : Job) {now : Nat} {steps : List Step} (hsteps : steps <+: Step.all)
include hsteps

/-- The signal is the last of the steps up to the signal. -/
theorem end_signal {start : Nat} (h : (start, .signalStart) ∈ job.callsAll now steps) :
    start + job.behaviour.signalStart.delay = job.finishAll now untilSignal := by
  obtain ⟨before, step, after, rfl, hc, hcall⟩ := exists_of_mem_callsAll h
  cases step with
  | signalStart =>
    rw [eq_earlier hsteps] at hcall
    obtain rfl := congrArg Prod.fst (List.mem_singleton.mp hcall)
    rfl
  | _ => cases hc

/-- A node is probed only after its signal. -/
theorem exists_signal {time : Nat} (h : (time, .probe) ∈ job.callsAll now steps) :
    ∃ start, (start, .signalStart) ∈ job.callsAll now steps := by
  obtain ⟨before, step, after, rfl, hc, -⟩ := exists_of_mem_callsAll h
  cases step with
  | waitForDocker =>
    -- All steps up to the signal come before the wait.
    obtain rfl : before = untilSignal := eq_earlier hsteps
    refine ⟨job.finishAll now [.fixMounts, .setProxy], ?_⟩
    rw [callsAll_append]
    exact List.mem_append_left _ (by simp [callsAll, calls, finishAll, untilSignal])
  | _ => cases hc

/-- The probes of the work are those of the wait, which begins with the end of the signal. -/
theorem filter_callsAll : (job.callsAll now steps).filter (·.2 = .probe)
    = if .waitForDocker ∈ steps then
        (job.wait (job.finishAll now untilSignal)).probes.map fun probe => (probe.start, .probe)
      else [] := by
  split
  next hwait =>
    obtain ⟨before, after, rfl⟩ := List.append_of_mem hwait
    obtain rfl : before = untilSignal := eq_earlier hsteps
    -- There is no second wait.
    have hafter : .waitForDocker ∉ after := by
      have hnodup : (untilSignal ++ .waitForDocker :: after).Nodup :=
        hsteps.sublist.nodup (by decide)
      exact (List.nodup_cons.mp (List.nodup_append.mp hnodup).2.1).1
    rw [callsAll_append, List.filter_append, filter_callsAll_of_notMem (by decide), callsAll,
      List.filter_append, filter_callsAll_of_notMem hafter, List.nil_append, List.append_nil]
    refine List.filter_eq_self.mpr fun call hcall => ?_
    exact decide_eq_true (call_of_mem_calls hcall)
  next hwait => exact filter_callsAll_of_notMem hwait

/-- The times of the probes, measured from the end of the signal, are those of a wait that starts at
time 0. -/
theorem probesSince_signal (htimeless : job.behaviour.probing.Timeless) {course : Course Unit}
    (hcalls : course.calls = job.callsAll now steps) {start : Nat}
    (hsignal : (start, .signalStart) ∈ course.calls) :
    course.probesSince (start + job.behaviour.signalStart.delay)
      = if .waitForDocker ∈ steps then (job.wait 0).probes.map fun probe => (probe.start : Int)
        else [] := by
  rw [hcalls] at hsignal
  rw [Course.probesSince, hcalls, end_signal job hsteps hsignal, filter_callsAll job hsteps]
  split
  · -- What the wait is later by is what the times are measured from.
    rw [wait_eq_later htimeless]
    simp [Wait.later, Probe.later, Function.comp_def]
  · rfl

end

/-! ### All steps -/

section
variable {job : Job} {other : Behaviour} (h : job.behaviour.SameButDelays other)
  (htimeless : job.behaviour.probing.Timeless) (hpanics : job.behaviour.NeverPanics)
  (now later : Nat)
include h htimeless hpanics

/-- The work ends after the same steps, and in the same way. -/
theorem exists_steps_slowed :
    ∃ steps, steps <+: Step.all
      ∧ (job.takeAll Step.all now).calls = job.callsAll now steps
      ∧ (job.takeAll Step.all now).finish = job.finishAll now steps
      ∧ ((job.slowed other).takeAll Step.all later).calls = (job.slowed other).callsAll later steps
      ∧ ((job.slowed other).takeAll Step.all later).finish
        = (job.slowed other).finishAll later steps
      ∧ ((job.slowed other).takeAll Step.all later).ending = (job.takeAll Step.all now).ending := by
  have hpanicsOther : (job.slowed other).behaviour.NeverPanics := h.neverPanics hpanics
  rcases job.clearsAll_or_exists_fault now Step.all
    with hall | ⟨before, step, after, hsplit, hbefore, hfault⟩
  · -- No step stops the work, in either case.
    have hallOther := (clearsAll_slowed h htimeless now later Step.all).mpr hall
    obtain ⟨hending, hcalls, hfinish⟩ := takeAll_of_clear hpanics hall
    obtain ⟨hendingOther, hcallsOther, hfinishOther⟩ := takeAll_of_clear hpanicsOther hallOther
    exact ⟨Step.all, List.prefix_refl _, hcalls, hfinish, hcallsOther, hfinishOther,
      hendingOther.trans hending.symm⟩
  · -- The same step is the first that does not clear the way.
    have hbeforeOther := (clearsAll_slowed h htimeless now later before).mpr hbefore
    have hfaultOther :
        ¬ (job.slowed other).Clears ((job.slowed other).finishAll later before) step :=
      fun hclears => hfault ((clears_slowed h htimeless _ _ step).mp hclears)
    obtain ⟨⟨failure, hending, hfails⟩, hcalls, hfinish⟩ :=
      takeAll_of_fault hpanics hbefore hfault after
    obtain ⟨⟨failureOther, hendingOther, hfailsOther⟩, hcallsOther, hfinishOther⟩ :=
      takeAll_of_fault hpanicsOther hbeforeOther hfaultOther after
    rw [← hsplit] at hcalls hfinish hending hcallsOther hfinishOther hendingOther
    refine ⟨before ++ [step], ⟨after, ?_⟩, hcalls, hfinish, hcallsOther, hfinishOther, ?_⟩
    · rw [hsplit, List.append_assoc, List.singleton_append]
    · rw [hending, hendingOther, ((failsAt_slowed h).mp hfailsOther).unique hfails]

end

end Job

/-- What two courses of getting a node ready have in common. They start at different times, under
behaviours that differ in nothing but the delays of the steps. -/
structure EquallyPatient (behaviour slower : Behaviour) (now later : Nat)
    (course other : Course Unit) : Prop where
  /-- They have the same result. -/
  ending : other.ending = course.ending
  /-- The same calls are made, in the same order. -/
  calls : other.calls.map Prod.snd = course.calls.map Prod.snd
  /-- A node is probed only if it has been signalled. -/
  signalled : ∀ time, (time, .probe) ∈ course.calls → ∃ start, (start, .signalStart) ∈ course.calls
  /-- The times of the probes are the same, measured from the end of the signal. -/
  probes : ∀ start startOther, (start, .signalStart) ∈ course.calls →
    (startOther, .signalStart) ∈ other.calls →
      other.probesSince (startOther + slower.signalStart.delay)
        = course.probesSince (start + behaviour.signalStart.delay)
  /-- The one takes as much longer than the other as the steps take longer that have been called. -/
  elapsed : ((other.finish : Int) - later) - ((course.finish : Int) - now)
    = (slower.spent other.calls : Int) - behaviour.spent course.calls

/-- Replies from a list do not depend on the clock. When replies do not, delays of the steps change
nothing about getting a node ready but its times. -/
theorem equallyPatient_run :
    (∀ replies, (Probing.ofList replies).Timeless)
      ∧ ∀ (settings : Settings) (needProxy : Bool) (node : String) (behaviour slower : Behaviour),
        behaviour.NeverPanics → behaviour.SameButDelays slower → behaviour.probing.Timeless →
          ∀ now later, EquallyPatient behaviour slower now later
            (run settings needProxy node behaviour now)
            (run settings needProxy node slower later) := by
  refine ⟨Probing.timeless_ofList, ?_⟩
  intro settings needProxy node behaviour slower hpanics hsame htimeless now later
  let job : Job := ⟨settings, needProxy, node, behaviour⟩
  have hjob : job.behaviour.SameButDelays slower := hsame
  obtain ⟨steps, hsteps, hcalls, hfinish, hcallsOther, hfinishOther, hending⟩ :=
    Job.exists_steps_slowed hjob htimeless hpanics now later
  rw [← job.run_eq_takeAll] at hcalls hfinish hending
  rw [← (job.slowed slower).run_eq_takeAll] at hcallsOther hfinishOther hending
  refine { ending := hending, calls := ?calls, signalled := ?signalled, probes := ?probes
           elapsed := ?elapsed }
  case calls =>
    refine (congrArg (List.map Prod.snd) hcallsOther).trans ?_
    exact (Job.map_callsAll_slowed hjob htimeless now later steps).trans
      (congrArg (List.map Prod.snd) hcalls).symm
  case signalled =>
    intro time hprobe
    obtain ⟨start, hsignal⟩ := job.exists_signal hsteps (hcalls ▸ hprobe)
    exact ⟨start, hcalls ▸ hsignal⟩
  case probes =>
    intro start startOther hsignal hsignalOther
    have htimelessOther : (job.slowed slower).behaviour.probing.Timeless :=
      hsame.probing ▸ htimeless
    refine ((job.slowed slower).probesSince_signal hsteps htimelessOther hcallsOther
      hsignalOther).trans ?_
    rw [Job.wait_slowed hjob]
    exact (job.probesSince_signal hsteps htimeless hcalls hsignal).symm
  case elapsed =>
    have hlength := Job.finishAll_slowed hjob htimeless now later steps
    rw [← hcalls, ← hcallsOther, ← hfinish, ← hfinishOther] at hlength
    dsimp only [job, Job.slowed] at hlength
    omega

/-- The node of `imageless`, with slow steps before the wait. -/
def dawdling : Behaviour :=
  { imageless with fixMounts := { delay := 4000 }, signalStart := { delay := 60000 } }

theorem equallyPatient_run_dawdling :
    imageless.NeverPanics ∧ imageless.SameButDelays dawdling ∧ imageless.probing.Timeless
      ∧ (run { imagePolicy := .required } true "kind-worker" dawdling 0).calls
        = [(0, .fixMounts), (4000, .setProxy), (4020, .signalStart), (64020, .probe),
            (64275, .probe), (64280, .loadImages)]
      ∧ EquallyPatient imageless dawdling 100 0
        (run { imagePolicy := .required } true "kind-worker" imageless 100)
        (run { imagePolicy := .required } true "kind-worker" dawdling 0) := by
  have hpanics : imageless.NeverPanics := by
    refine ⟨?_, ?_, ?_, ?_⟩ <;> decide
  have hsame : imageless.SameButDelays dawdling := ⟨rfl, rfl, rfl, rfl, rfl⟩
  have htimeless : imageless.probing.Timeless := Probing.timeless_ofList _
  exact ⟨hpanics, hsame, htimeless, rfl,
    equallyPatient_run.2 _ _ _ _ _ hpanics hsame htimeless _ _⟩

end Fixup
end ClusterProvision
