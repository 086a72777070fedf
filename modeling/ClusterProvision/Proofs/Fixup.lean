import ClusterProvision.Proofs.Course

/-!
# `ClusterProvision.Proofs.Fixup`: the steps of getting a node ready

Each step has an equation for every way in which its call can end (`take_of_success`,
`awaitRuntime_of_ready`, ...), and a lemma that says what it can fail with
(`failsWith_take`, `failsWith_awaitRuntime`, `failsWith_loadImages`).

The steps fall into three parts: `Fixup.prepare` up to the signal, the wait for the container
runtime, and the images (`run_eq_bind`). Only the wait depends on the timeout, and only the
images on their policy. Work that is put together of parts has come to its end through them:
`Timed.exists_of_bind_done` and `Timed.cases_of_bind_failed`.
-/

set_option autoImplicit false

namespace ClusterProvision

namespace Timed

variable {α β γ : Type}

/-! ### Work put together of parts -/

/-- Work that follows other work gets done after that has got done. -/
theorem exists_of_bind_done {work : Timed α} {more : α → Timed β} {now : Nat} {b : β}
    (h : ((work >>= more) now).ending = .done b) :
    ∃ a, (work now).ending = .done a ∧ (more a (work now).finish).ending = .done b := by
  cases hending : (work now).ending with
  | done a =>
    rw [bind_of_done hending] at h
    exact ⟨a, rfl, h⟩
  | failed failure =>
    rw [bind_of_failed hending] at h
    exact nomatch h
  | panicked =>
    rw [bind_of_panicked hending] at h
    exact nomatch h

/-- Either the first work fails, or it gets done and the second one fails. -/
theorem cases_of_bind_failed {work : Timed α} {more : α → Timed β} {now : Nat} {failure : Failure}
    (h : ((work >>= more) now).ending = .failed failure) :
    (work now).ending = .failed failure
      ∨ ∃ a, (work now).ending = .done a
        ∧ (more a (work now).finish).ending = .failed failure := by
  cases hending : (work now).ending with
  | done a =>
    rw [bind_of_done hending] at h
    exact .inr ⟨a, rfl, h⟩
  | failed other =>
    rw [bind_of_failed hending] at h
    cases h
    exact .inl rfl
  | panicked =>
    rw [bind_of_panicked hending] at h
    exact nomatch h

/-- It does not matter how work is put together of its parts. -/
theorem bind_assoc (work : Timed α) (more : α → Timed β) (last : β → Timed γ) :
    work >>= more >>= last = work >>= fun a => more a >>= last := by
  funext now
  cases hfirst : (work now).ending with
  | failed failure =>
    rw [bind_of_failed hfirst, bind_of_failed (congrArg Course.ending (bind_of_failed hfirst more)),
      bind_of_failed hfirst]
  | panicked =>
    rw [bind_of_panicked hfirst,
      bind_of_panicked (congrArg Course.ending (bind_of_panicked hfirst more)),
      bind_of_panicked hfirst]
  | done a =>
    have hboth := bind_of_done hfirst more
    rw [bind_of_done hfirst]
    cases hsecond : (more a (work now).finish).ending with
    | failed failure =>
      rw [bind_of_failed (by rw [hboth]; exact hsecond), hboth, bind_of_failed hsecond]
    | panicked =>
      rw [bind_of_panicked (by rw [hboth]; exact hsecond), hboth, bind_of_panicked hsecond]
    | done b =>
      rw [bind_of_done (by rw [hboth]; exact hsecond), hboth, bind_of_done hsecond]
      simp only [List.append_assoc]

end Timed

/-- The calls of work that follows other work come after its calls. -/
theorem Course.calls_append {α : Type} (first second : List (Nat × Event)) (logs : List Log)
    (finish : Nat) (ending : Ending α) :
    (⟨first ++ second, logs, finish, ending⟩ : Course α).calls
      = (⟨first, logs, finish, ending⟩ : Course α).calls
        ++ (⟨second, logs, finish, ending⟩ : Course α).calls := List.filterMap_append

namespace Fixup

open Timed

/-! ### Steps that must not fail -/

section
variable {node : String} {step : Step} {c : Call} {reply : Reply} {now : Nat}

theorem take_of_success (h : reply.outcome = .success) :
    take node step c reply now
      = ⟨[(now, .called c), (now + reply.delay, .succeeded c)], (announce node step now).logs,
        now + reply.delay, .done ()⟩ := by
  unfold take announce
  simp [bind, pure, next, log, done, call_of_success h]

theorem take_of_failure {source : ErrorChain} (h : reply.outcome = .failure source) :
    ∃ logs, take node step c reply now
      = ⟨[(now, .called c)], logs, now + reply.delay, .failed (.fixup node step source)⟩ := by
  unfold take announce
  simp [bind, next, log, fail, call_of_failure h]

end

theorem failsWith_take (node : String) (step : Step) (c : Call) (reply : Reply) :
    FailsWith (fun failure => ∃ source, failure = .fixup node step source)
      (take node step c reply) := by
  refine FailsWith.bind (failsWith_log _) fun _ => ?_
  refine FailsWith.bind (failsWith_call _ _) fun outcome => ?_
  cases outcome with
  | ok done => exact failsWith_pure _
  | error source => exact FailsWith.bind (failsWith_log _) fun _ => failsWith_fail ⟨source, rfl⟩

/-! ### The wait -/

section
variable {settings : Settings} {node : String} {probing : Probing} {now : Nat}

/-- The probes of a wait as events. -/
def probeEvents (wait : Wait) : List (Nat × Event) :=
  wait.probes.map fun probe => (probe.start, .called .probe)

/-- Each of them is a call. -/
theorem calls_probeEvents {α : Type} (wait : Wait) (logs : List Log) (finish : Nat)
    (ending : Ending α) : (⟨probeEvents wait, logs, finish, ending⟩ : Course α).calls
      = wait.probes.map fun probe => (probe.start, .probe) := by
  show (probeEvents wait).filterMap _ = _
  rw [probeEvents, List.filterMap_map, ← List.filterMap_eq_map]
  rfl

theorem awaitRuntime_of_ready {wait : Wait}
    (hwait : Readiness.wait probing now (now + settings.readyTimeout) settings.pollInterval = wait)
    (h : wait.ready = true) :
    awaitRuntime settings node probing now
      = ⟨probeEvents wait, (announce node .waitForDocker now).logs, wait.finish, .done ()⟩ := by
  unfold awaitRuntime announce probeEvents
  simp [bind, pure, next, log, done, awaitReady, hwait, h]

theorem awaitRuntime_of_not_ready {wait : Wait}
    (hwait : Readiness.wait probing now (now + settings.readyTimeout) settings.pollInterval = wait)
    (h : wait.ready = false) :
    ∃ logs, awaitRuntime settings node probing now
      = ⟨probeEvents wait, logs, wait.finish,
        .failed (.notReady node (.ofMillis settings.readyTimeout))⟩ := by
  unfold awaitRuntime announce probeEvents
  simp [bind, next, log, fail, awaitReady, hwait, h]

end

theorem failsWith_awaitRuntime (settings : Settings) (node : String) (probing : Probing) :
    FailsWith (· = .notReady node (.ofMillis settings.readyTimeout))
      (awaitRuntime settings node probing) := by
  refine FailsWith.bind (failsWith_log _) fun _ => ?_
  refine FailsWith.bind (failsWith_awaitReady _ _ _) fun ready => ?_
  cases ready with
  | true => exact failsWith_pure _
  | false => exact FailsWith.bind (failsWith_log _) fun _ => failsWith_fail rfl

/-! ### The images -/

/-- Images that cannot be loaded are a failure under the policy that requires them. -/
theorem failsWith_loadImages (settings : Settings) (node : String) (reply : Reply) :
    FailsWith (fun failure => settings.imagePolicy = .required
        ∧ ∃ source, failure = .imageLoad node source)
      (loadImages settings node reply) := by
  refine FailsWith.bind (failsWith_log _) fun _ => ?_
  refine FailsWith.bind (failsWith_call _ _) fun outcome => ?_
  cases outcome with
  | ok done => exact failsWith_pure _
  | error source =>
    dsimp only
    cases hpolicy : settings.imagePolicy with
    | bestEffort => exact failsWith_log _
    | required => exact failsWith_fail ⟨rfl, source, rfl⟩

/-! ### The three parts -/

/-- Takes the steps up to the signal. -/
def prepare (needProxy : Bool) (node : String) (behaviour : Behaviour) : Timed Unit := do
  take node .fixMounts .fixMounts behaviour.fixMounts
  if needProxy then take node .setProxy .setProxy behaviour.setProxy
  take node .signalStart .signalStart behaviour.signalStart

/-- All steps for a node: those up to the signal, the wait, and the images. -/
theorem run_eq_bind (settings : Settings) (needProxy : Bool) (node : String)
    (behaviour : Behaviour) :
    run settings needProxy node behaviour
      = prepare needProxy node behaviour >>= fun _ =>
          awaitRuntime settings node behaviour.probing >>= fun _ =>
            loadImages settings node behaviour.loadImages := by
  unfold run prepare
  rw [bind_assoc]
  congr 1
  funext _
  -- The step for the proxy is left out when no proxy is needed.
  cases needProxy with
  | false => rfl
  | true => exact (bind_assoc _ _ _).symm

theorem failsWith_prepare (needProxy : Bool) (node : String) (behaviour : Behaviour) :
    FailsWith (fun failure => ∃ step source, failure = .fixup node step source)
      (prepare needProxy node behaviour) := by
  have hstep : ∀ step c reply,
      FailsWith (fun failure => ∃ step source, failure = .fixup node step source)
        (take node step c reply) := by
    intro step c reply now failure h
    exact ⟨step, failsWith_take node step c reply now failure h⟩
  refine FailsWith.bind (hstep _ _ _) fun _ => ?_
  cases needProxy with
  | false => exact hstep _ _ _
  | true => exact FailsWith.bind (hstep _ _ _) fun _ => hstep _ _ _

section
variable {settings : Settings} {needProxy : Bool} {node : String} {behaviour : Behaviour}
  {now : Nat}

/-- The wait for a node, once the steps up to the signal are done. -/
def waitAfter (settings : Settings) (behaviour : Behaviour) (since : Nat) : Wait :=
  Readiness.wait behaviour.probing since (since + settings.readyTimeout) settings.pollInterval

end

end Fixup
end ClusterProvision
