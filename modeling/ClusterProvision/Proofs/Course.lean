import ClusterProvision.NodeRun

/-!
# `ClusterProvision.Proofs.Course`: the course of one node's work

The work for a node is a few kinds of steps, one after another. A property that every kind
of step has, and that work keeps which follows other work, holds of the whole
(`Timed.Compositional.provision`). Three properties are proved this way. They hold whenever
the work starts and whatever the provider does:

* `NodeRun.orderly_provision`: the events come in the order of their times, none before the
  start and none after the end.
* `NodeRun.blames_provision`: a failure names the node.
* `Fixup.createsNone_run`: getting a node ready makes no create call.

What comes before that is one create call, or none for an unknown role: `provision_of_created`,
`provision_of_not_created` and `provision_of_unknown`.
-/

set_option autoImplicit false

namespace ClusterProvision

variable {α β : Type}

/-- The events of a course come in the order of their times, between its start and its
end. -/
structure Course.Orderly (course : Course α) (start : Nat) : Prop where
  sorted : (course.events.map Prod.fst).Pairwise (· ≤ ·)
  within : ∀ time ∈ course.events.map Prod.fst, start ≤ time ∧ time ≤ course.finish
  forward : start ≤ course.finish

/-- Whether a call creates a node. All other calls are made on a node that has been created. -/
def Call.isCreate : Call → Bool
  | .create .. => true
  | _ => false

/-- The call that an event belongs to. -/
def Event.call : Event → Call
  | .called call => call
  | .succeeded call => call

namespace Timed

/-- Work whose courses are orderly. -/
def Orderly (work : Timed α) : Prop := ∀ now, (work now).Orderly now

/-- Work whose failures are of one kind. -/
def FailsWith (kind : Failure → Prop) (work : Timed α) : Prop :=
  ∀ now failure, (work now).ending = .failed failure → kind failure

/-- Work whose failures name a node. -/
def Blames (node : String) (work : Timed α) : Prop :=
  ∀ now failure, (work now).ending = .failed failure → failure.node? = some node

/-- Work without events of create calls. -/
def CreatesNone (work : Timed α) : Prop :=
  ∀ now, ∀ entry ∈ (work now).events, entry.2.call.isCreate = false

/-! ### Steps -/

theorem orderly_pure (a : α) : Orderly (pure a : Timed α) := by
  intro now
  exact ⟨.nil, by simp [pure, done], Nat.le_refl now⟩

theorem orderly_fail (failure : Failure) : Orderly (fail failure : Timed α) := by
  intro now
  exact ⟨.nil, by simp [fail], Nat.le_refl now⟩

theorem orderly_log (entry : Log) : Orderly (log entry) := by
  intro now
  exact ⟨.nil, by simp [log], Nat.le_refl now⟩

theorem orderly_call (c : Call) (reply : Reply) : Orderly (call c reply) := by
  intro now
  have hdelay : now ≤ now + reply.delay := Nat.le_add_right now reply.delay
  unfold call
  cases reply.outcome with
  | success => exact ⟨by simp, by simp, hdelay⟩
  | failure source => exact ⟨by simp, by simp, hdelay⟩
  | panic => exact ⟨by simp, by simp, hdelay⟩

/-- The second work starts where the first has ended, so nothing in it comes earlier. -/
theorem Orderly.bind {work : Timed α} {more : α → Timed β} (h : Orderly work)
    (hmore : ∀ a, Orderly (more a)) : Orderly (work >>= more) := by
  intro now
  have hfirst := h now
  cases hending : (work now).ending with
  | done a =>
    have hsecond := hmore a (work now).finish
    rw [bind_of_done hending]
    refine ⟨?_, ?_, Nat.le_trans hfirst.forward hsecond.forward⟩
    · simp only [List.map_append]
      refine List.pairwise_append.mpr ⟨hfirst.sorted, hsecond.sorted, ?_⟩
      intro early hearly late hlate
      exact Nat.le_trans (hfirst.within early hearly).2 (hsecond.within late hlate).1
    · intro time htime
      simp only [List.map_append, List.mem_append] at htime
      rcases htime with htime | htime
      · have hwithin := hfirst.within time htime
        exact ⟨hwithin.1, Nat.le_trans hwithin.2 hsecond.forward⟩
      · have hwithin := hsecond.within time htime
        exact ⟨Nat.le_trans hfirst.forward hwithin.1, hwithin.2⟩
  | failed failure =>
    rw [bind_of_failed hending]
    exact ⟨hfirst.sorted, hfirst.within, hfirst.forward⟩
  | panicked =>
    rw [bind_of_panicked hending]
    exact ⟨hfirst.sorted, hfirst.within, hfirst.forward⟩

section
variable {kind : Failure → Prop}

theorem failsWith_pure (a : α) : FailsWith kind (pure a : Timed α) := by
  intro now failure h
  exact nomatch h

theorem failsWith_fail {failure : Failure} (h : kind failure) :
    FailsWith kind (fail failure : Timed α) := by
  intro now other hother
  cases hother
  exact h

theorem failsWith_log (entry : Log) : FailsWith kind (log entry) := by
  intro now failure h
  exact nomatch h

/-- A call that fails has not failed as work: what to make of it is left to the caller. -/
theorem failsWith_call (c : Call) (reply : Reply) : FailsWith kind (call c reply) := by
  intro now failure h
  unfold call at h
  cases houtcome : reply.outcome <;> rw [houtcome] at h <;> exact nomatch h

theorem failsWith_awaitReady (probing : Probing) (timeout interval : Nat) :
    FailsWith kind (awaitReady probing timeout interval) := by
  intro now failure h
  exact nomatch h

theorem FailsWith.bind {work : Timed α} {more : α → Timed β} (h : FailsWith kind work)
    (hmore : ∀ a, FailsWith kind (more a)) : FailsWith kind (work >>= more) := by
  intro now failure hfailure
  cases hending : (work now).ending with
  | done a =>
    rw [bind_of_done hending] at hfailure
    exact hmore a _ failure hfailure
  | failed other =>
    rw [bind_of_failed hending] at hfailure
    cases hfailure
    exact h now failure hending
  | panicked =>
    rw [bind_of_panicked hending] at hfailure
    exact nomatch hfailure

end

theorem createsNone_pure (a : α) : CreatesNone (pure a : Timed α) := by
  intro now entry hentry
  exact nomatch hentry

theorem createsNone_fail (failure : Failure) : CreatesNone (fail failure : Timed α) := by
  intro now entry hentry
  exact nomatch hentry

theorem createsNone_log (entry : Log) : CreatesNone (log entry) := by
  intro now event hevent
  exact nomatch hevent

theorem createsNone_call {c : Call} (h : c.isCreate = false) (reply : Reply) :
    CreatesNone (call c reply) := by
  intro now entry hentry
  have hcall : entry.2.call = c := by
    unfold call at hentry
    cases houtcome : reply.outcome with
    | success =>
      simp only [houtcome, List.mem_cons, List.not_mem_nil, or_false] at hentry
      rcases hentry with rfl | rfl <;> rfl
    | failure source =>
      simp only [houtcome, List.mem_singleton] at hentry
      rw [hentry]
      rfl
    | panic =>
      simp only [houtcome, List.mem_singleton] at hentry
      rw [hentry]
      rfl
  rw [hcall, h]

theorem createsNone_awaitReady (probing : Probing) (timeout interval : Nat) :
    CreatesNone (awaitReady probing timeout interval) := by
  intro now entry hentry
  obtain ⟨probe, -, rfl⟩ := List.mem_map.mp hentry
  rfl

theorem CreatesNone.bind {work : Timed α} {more : α → Timed β} (h : CreatesNone work)
    (hmore : ∀ a, CreatesNone (more a)) : CreatesNone (work >>= more) := by
  intro now entry hentry
  cases hending : (work now).ending with
  | done a =>
    rw [bind_of_done hending] at hentry
    rcases List.mem_append.mp hentry with hfirst | hsecond
    · exact h now entry hfirst
    · exact hmore a _ entry hsecond
  | failed failure =>
    rw [bind_of_failed hending] at hentry
    exact h now entry hentry
  | panicked =>
    rw [bind_of_panicked hending] at hentry
    exact h now entry hentry

end Timed

/-! ### Waiting for the container runtime -/

/-- Since the probes in `made`, the latest first, probes have come one after another, from
`now` on and up to the end of the wait. -/
def Wait.Adds (wait : Wait) (made : List Probe) (now : Nat) : Prop :=
  ∃ added, wait.probes = made.reverse ++ added
    ∧ (added.map Probe.start).Pairwise (· ≤ ·)
    ∧ (∀ time ∈ added.map Probe.start, now ≤ time ∧ time ≤ wait.finish)
    ∧ now ≤ wait.finish

namespace Wait.Adds

variable {wait : Wait} {made : List Probe} {now : Nat}

theorem none (hprobes : wait.probes = made.reverse) (hfinish : now ≤ wait.finish) :
    wait.Adds made now :=
  ⟨[], by rw [hprobes, List.append_nil], .nil, by simp, hfinish⟩

theorem cons {reply : ProbeReply} {later : Nat} (h : wait.Adds (⟨now, reply⟩ :: made) later)
    (hlater : now ≤ later) : wait.Adds made now := by
  obtain ⟨added, hprobes, hsorted, hwithin, hfinish⟩ := h
  refine ⟨⟨now, reply⟩ :: added, ?_, ?_, ?_, Nat.le_trans hlater hfinish⟩
  · rw [hprobes, List.reverse_cons, List.append_assoc]
    rfl
  · rw [List.map_cons, List.pairwise_cons]
    exact ⟨fun time htime => Nat.le_trans hlater (hwithin time htime).1, hsorted⟩
  · intro time htime
    rw [List.map_cons, List.mem_cons] at htime
    rcases htime with rfl | htime
    · exact ⟨Nat.le_refl _, Nat.le_trans hlater hfinish⟩
    · exact ⟨Nat.le_trans hlater (hwithin time htime).1, (hwithin time htime).2⟩

end Wait.Adds

namespace Readiness

theorem adds_poll (probing : Probing) (deadline interval rounds : Nat) (made : List Probe)
    (now : Nat) : (poll probing deadline interval rounds made now).Adds made now := by
  induction rounds generalizing made now with
  | zero => exact .none rfl (Nat.le_max_left now deadline)
  | succ rounds ih =>
    unfold poll
    by_cases hpast : deadline ≤ now
    · rw [if_pos hpast]
      exact .none rfl (Nat.le_refl now)
    rw [if_neg hpast]
    have hnow : now ≤ deadline := by omega
    -- Every case but the last ends with the probe that is made now.
    cases hreply : probing.reply made with
    | silence => exact .cons (.none rfl hnow) (Nat.le_refl now)
    | answer ready delay =>
      have hdelay : now ≤ now + delay := Nat.le_add_right now delay
      dsimp only
      split
      · exact .cons (.none rfl hnow) (Nat.le_refl now)
      · split
        · exact .cons (.none rfl hdelay) (Nat.le_refl now)
        · split
          · exact .cons (.none rfl hdelay) (Nat.le_refl now)
          · exact .cons (ih _ _) (by omega)

end Readiness

theorem Timed.orderly_awaitReady (probing : Probing) (timeout interval : Nat) :
    Orderly (awaitReady probing timeout interval) := by
  intro now
  obtain ⟨added, hprobes, hsorted, hwithin, hfinish⟩ := Readiness.adds_poll probing
    (now + timeout) interval (now + timeout - now + probing.settled) [] now
  have hevents : (awaitReady probing timeout interval now).events.map Prod.fst
      = added.map Probe.start := by
    rw [← List.nil_append added, ← List.reverse_nil, ← hprobes]
    exact List.map_map
  refine ⟨?_, ?_, hfinish⟩
  · rw [hevents]
    exact hsorted
  · rw [hevents]
    exact hwithin

/-! ### The work for a node -/

open Timed

/-- A property of work that every step has which can come after the node's creation, given that a
failure names the node, and that work keeps which follows other work. -/
structure Timed.Compositional (node : String) (P : ∀ {α : Type}, Timed α → Prop) : Prop where
  pure : ∀ {α : Type} (a : α), P (pure a : Timed α)
  fail : ∀ {α : Type} (failure : Failure), failure.node? = some node →
    P (fail failure : Timed α)
  log : ∀ entry, P (log entry)
  call : ∀ c reply, c.isCreate = false → P (call c reply)
  awaitReady : ∀ probing timeout interval, P (awaitReady probing timeout interval)
  bind : ∀ {α β : Type} {work : Timed α} {more : α → Timed β}, P work → (∀ a, P (more a)) →
    P (work >>= more)

namespace Timed.Compositional

variable {node : String} {P : ∀ {α : Type}, Timed α → Prop}

section
variable (h : Compositional node P)
include h

theorem take (step : Step) {c : Call} (hc : c.isCreate = false) (reply : Reply) :
    P (Fixup.take node step c reply) := by
  refine h.bind (h.log _) fun _ => h.bind (h.call c reply hc) fun outcome => ?_
  cases outcome with
  | ok done => exact h.pure _
  | error source => exact h.bind (h.log _) fun _ => h.fail _ rfl

theorem awaitRuntime (settings : Settings) (probing : Probing) :
    P (Fixup.awaitRuntime settings node probing) := by
  refine h.bind (h.log _) fun _ => h.bind (h.awaitReady _ _ _) fun ready => ?_
  cases ready with
  | true => exact h.pure _
  | false => exact h.bind (h.log _) fun _ => h.fail _ rfl

theorem loadImages (settings : Settings) (reply : Reply) :
    P (Fixup.loadImages settings node reply) := by
  refine h.bind (h.log _) fun _ => h.bind (h.call _ _ rfl) fun outcome => ?_
  cases outcome with
  | ok done => exact h.pure _
  | error source =>
    dsimp only
    cases settings.imagePolicy with
    | bestEffort => exact h.log _
    | required => exact h.fail _ rfl

theorem run (settings : Settings) (needProxy : Bool) (behaviour : Behaviour) :
    P (Fixup.run settings needProxy node behaviour) := by
  have hrest : P (do
      Fixup.take node .signalStart .signalStart behaviour.signalStart
      Fixup.awaitRuntime settings node behaviour.probing
      Fixup.loadImages settings node behaviour.loadImages) :=
    h.bind (h.take _ rfl _) fun _ => h.bind (h.awaitRuntime _ _) fun _ => h.loadImages _ _
  -- The step for the proxy is left out when no proxy is needed.
  refine h.bind (h.take _ rfl _) fun _ => ?_
  cases needProxy with
  | false => exact hrest
  | true => exact h.bind (h.take _ rfl _) fun _ => hrest

end

/-- A compositional property that create calls have, too, holds of the whole work for a node. -/
theorem provision {spec : NodeSpec} (h : Compositional spec.name P)
    (hcreate : ∀ method request reply, P (Timed.call (.create method request) reply))
    (settings : Settings) (provider : Provider) (label : String) :
    P (NodeRun.provision settings provider label spec) := by
  refine h.bind ?_ fun _ => h.run _ _ _
  unfold NodeRun.create
  cases spec.role.createMethod? with
  | none => exact h.fail _ rfl
  | some method =>
    refine h.bind (hcreate _ _ _) fun outcome => ?_
    cases outcome with
    | ok done => exact h.pure _
    | error source => exact h.fail _ rfl

end Timed.Compositional

/-- Getting a node ready makes no create call. -/
theorem Fixup.createsNone_run (settings : Settings) (needProxy : Bool) (node : String)
    (behaviour : Behaviour) : CreatesNone (Fixup.run settings needProxy node behaviour) :=
  Compositional.run (P := CreatesNone)
    { pure := createsNone_pure, fail := fun failure _ => createsNone_fail failure
      log := createsNone_log, call := fun _ reply hc => createsNone_call hc reply
      awaitReady := createsNone_awaitReady, bind := CreatesNone.bind }
    settings needProxy behaviour

/-! ### Creating a node -/

namespace Timed

section
variable {c : Call} {reply : Reply} {now : Nat}

theorem call_of_success (h : reply.outcome = .success) :
    call c reply now = ⟨[(now, .called c), (now + reply.delay, .succeeded c)], [],
      now + reply.delay, .done (.ok ())⟩ := by
  simp only [call, h]

theorem call_of_failure {source : ErrorChain} (h : reply.outcome = .failure source) :
    call c reply now = ⟨[(now, .called c)], [], now + reply.delay, .done (.error source)⟩ := by
  simp only [call, h]

theorem call_of_panic (h : reply.outcome = .panic) :
    call c reply now = ⟨[(now, .called c)], [], now + reply.delay, .panicked⟩ := by
  simp only [call, h]

end

end Timed

theorem Role.exists_createMethod {role : Role} (h : role.isKnown = true) :
    ∃ method, role.createMethod? = some method ∧ method.role = role := by
  cases role with
  | unknown text => exact nomatch h
  | _ => exact ⟨_, rfl, rfl⟩

theorem Role.createMethod?_of_unknown {role : Role} (h : role.isKnown = false) :
    role.createMethod? = none := by
  cases role with
  | unknown text => rfl
  | _ => exact nomatch h

namespace NodeRun

section
variable {label : String} {behaviour : Behaviour} {spec : NodeSpec} {now : Nat}

theorem create_of_unknown (h : spec.role.isKnown = false) :
    create label behaviour spec now
      = ⟨[], [], now, .failed (.invalidRole spec.name spec.role)⟩ := by
  rw [create, Role.createMethod?_of_unknown h]
  rfl

variable {method : CreateMethod} (hmethod : spec.role.createMethod? = some method)
include hmethod

theorem create_of_success (h : behaviour.create.outcome = .success) :
    create label behaviour spec now
      = ⟨[(now, .called (.create method (request label spec))),
          (now + behaviour.create.delay, .succeeded (.create method (request label spec)))], [],
        now + behaviour.create.delay, .done ()⟩ := by
  rw [create, hmethod]
  dsimp only
  rw [bind_of_done (congrArg Course.ending (call_of_success h)), call_of_success h]
  rfl

theorem create_of_failure {source : ErrorChain} (h : behaviour.create.outcome = .failure source) :
    create label behaviour spec now
      = ⟨[(now, .called (.create method (request label spec)))], [],
        now + behaviour.create.delay, .failed (.creation spec.name source)⟩ := by
  rw [create, hmethod]
  dsimp only
  rw [bind_of_done (congrArg Course.ending (call_of_failure h)), call_of_failure h]
  rfl

theorem create_of_panic (h : behaviour.create.outcome = .panic) :
    create label behaviour spec now
      = ⟨[(now, .called (.create method (request label spec)))], [],
        now + behaviour.create.delay, .panicked⟩ := by
  rw [create, hmethod]
  dsimp only
  rw [bind_of_panicked (congrArg Course.ending (call_of_panic h)), call_of_panic h]

end

section
variable {settings : Settings} {provider : Provider} {label : String} {spec : NodeSpec} {now : Nat}

/-- The work for a node of an unknown role fails before any call. -/
theorem provision_of_unknown (h : spec.role.isKnown = false) :
    provision settings provider label spec now
      = ⟨[], [], now, .failed (.invalidRole spec.name spec.role)⟩ := by
  rw [provision, bind_of_failed (congrArg Course.ending (create_of_unknown h)),
    create_of_unknown h]

theorem ending_of_unknown (h : spec.role.isKnown = false) :
    (course settings provider label spec).ending = .failed (.invalidRole spec.name spec.role) := by
  rw [course, provision_of_unknown h]
  rfl

variable {method : CreateMethod} (hmethod : spec.role.createMethod? = some method)
include hmethod

/-- When the node has been created, it is got ready, from the end of the create call on. -/
theorem provision_of_created (h : (provider.behaviour spec.name).create.outcome = .success) :
    let since := now + (provider.behaviour spec.name).create.delay
    let fixup := Fixup.run settings provider.needProxy spec.name (provider.behaviour spec.name) since
    provision settings provider label spec now
      = ⟨(now, .called (.create method (request label spec)))
          :: (since, .succeeded (.create method (request label spec))) :: fixup.events,
        fixup.logs, fixup.finish, fixup.ending⟩ := by
  rw [provision, bind_of_done (congrArg Course.ending (create_of_success hmethod h)),
    create_of_success hmethod h]
  rfl

/-- When the create call fails or panics, it is the only event of the work. -/
theorem provision_of_not_created
    (h : (provider.behaviour spec.name).create.outcome ≠ .success) :
    (provision settings provider label spec now).events
        = [(now, .called (.create method (request label spec)))]
      ∧ (provision settings provider label spec now).ending ≠ .done () := by
  cases houtcome : (provider.behaviour spec.name).create.outcome with
  | success => exact absurd houtcome h
  | failure source =>
    rw [provision, bind_of_failed (congrArg Course.ending (create_of_failure hmethod houtcome)),
      create_of_failure hmethod houtcome]
    exact ⟨rfl, fun hdone => nomatch hdone⟩
  | panic =>
    rw [provision, bind_of_panicked (congrArg Course.ending (create_of_panic hmethod houtcome)),
      create_of_panic hmethod houtcome]
    exact ⟨rfl, fun hdone => nomatch hdone⟩

end

/-! ### The whole work -/

section
variable {spec : NodeSpec} {work : Course Unit}

/-- A node is ready once the work for it is done, under its name and with its role. -/
theorem ofWork_done {node : ReadyNode} :
    (ofWork spec work).ending = .done node
      ↔ work.ending = .done () ∧ node = ⟨spec.name, spec.role, work.finish⟩ := by
  cases h : work.ending <;> simp [ofWork, h, eq_comm]

theorem ofWork_failed {failure : Failure} :
    (ofWork spec work).ending = .failed failure ↔ work.ending = .failed failure := by
  cases h : work.ending <;> simp [ofWork, h]

theorem ofWork_panicked : (ofWork spec work).ending = .panicked ↔ work.ending = .panicked := by
  cases h : work.ending <;> simp [ofWork, h]

end

/-- The events of a node's work come in the order of their times. -/
theorem orderly_provision (settings : Settings) (provider : Provider) (label : String)
    (spec : NodeSpec) : Orderly (provision settings provider label spec) :=
  Compositional.provision (P := Orderly)
    { pure := orderly_pure, fail := fun failure _ => orderly_fail failure, log := orderly_log
      call := fun c reply _ => orderly_call c reply, awaitReady := orderly_awaitReady
      bind := Orderly.bind }
    (fun _ _ reply => orderly_call _ reply) settings provider label

/-- What a node's work fails with names the node. -/
theorem blames_provision (settings : Settings) (provider : Provider) (label : String)
    (spec : NodeSpec) : Blames spec.name (provision settings provider label spec) :=
  Compositional.provision (P := FailsWith fun failure => failure.node? = some spec.name)
    { pure := failsWith_pure, fail := fun _ h => failsWith_fail h, log := failsWith_log
      call := fun c reply _ => failsWith_call c reply, awaitReady := failsWith_awaitReady
      bind := FailsWith.bind }
    (fun _ _ reply => failsWith_call _ reply) settings provider label

end NodeRun
end ClusterProvision
