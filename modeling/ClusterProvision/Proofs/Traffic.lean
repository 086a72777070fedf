import ClusterProvision.Proofs.BootIds
import ClusterProvision.Proofs.SimulatedRun
import ClusterProvision.Simulation.Session

/-!
# `ClusterProvision.Proofs.Traffic`: calls of a simulated provider that overlap

A provider can be called while earlier create calls are still under way. Each of these waits for its
delay to pass and then has its effect at once, which is `Session.complete`. So calls with different
delays overtake each other. The moves of a `Traffic` are all that can happen: a create call is made,
time passes, a call takes effect, and the nodes that are there are used. A create call that nothing
overlaps is a call in a session (`Traffic.after_create`).

What a move adds to the record is what the record notes for the event that it brings, if it brings
one (`Traffic.record_step`). So the record is that of the events that have happened
(`Traffic.record_after`), as it is in the run of a whole cluster. The boot ids count the calls that
have succeeded (`Traffic.bootId_of_successes`). `Traffic.faithful` puts this together.
-/

set_option autoImplicit false

namespace ClusterProvision.Simulation

/-! ### Calls that overlap -/

/-- A create call that is under way, and when its delay will be over. -/
structure OpenCall where
  method : CreateMethod
  request : CreateRequest
  due : Nat
  deriving DecidableEq, Repr

/-- A session, and the create calls that are under way. -/
structure Traffic where
  session : Session := {}
  underway : List OpenCall := []
  deriving DecidableEq, Repr

namespace Traffic

/-- What can happen next. -/
inductive Move where
  /-- A create call is made. -/
  | create (method : CreateMethod) (request : CreateRequest)
  /-- Time passes. -/
  | wait (time : Nat)
  /-- The create call at a place among those under way takes effect, if its delay is over. -/
  | complete (place : Nat)
  /-- A step is taken with a node. -/
  | take (node : Nat) (step : Step)
  /-- A node is asked whether it is ready. -/
  | probe (node : Nat)
  deriving DecidableEq, Repr

/-- What a move brings. -/
inductive Happening where
  | nothing
  | made (call : OpenCall)
  | completed (call : OpenCall) (answer : SessionAnswer)
  | taken (step : Step) (answer : SessionAnswer)
  | probed (answer : SessionAnswer)
  deriving DecidableEq, Repr

/-- Makes a move. -/
def step (simulation : Simulation) (traffic : Traffic) : Move → Happening × Traffic
  | .create method request =>
    let call := ⟨method, request, traffic.session.clock + simulation.delay request.name⟩
    (.made call, { traffic with underway := traffic.underway ++ [call] })
  | .wait time =>
    let clock := traffic.session.clock + time
    (.nothing, { traffic with session := { traffic.session with clock } })
  | .complete place =>
    match traffic.underway[place]? with
    | some call =>
      if call.due ≤ traffic.session.clock then
        let (answer, _, session) :=
          Session.complete simulation traffic.session call.method call.request
        (.completed call answer, ⟨session, traffic.underway.eraseIdx place⟩)
      else (.nothing, traffic)
    | none => (.nothing, traffic)
  | .take node step =>
    let (answer, _, session) := traffic.session.step simulation (.take node step)
    (.taken step answer, { traffic with session })
  | .probe node =>
    let (answer, _, session) := traffic.session.step simulation (.probe node)
    (.probed answer, { traffic with session })

/-- The traffic after some moves. -/
def after (simulation : Simulation) (traffic : Traffic) : List Move → Traffic
  | [] => traffic
  | move :: moves => (traffic.step simulation move).2.after simulation moves

/-- What some moves bring, one after another. -/
def history (simulation : Simulation) (traffic : Traffic) : List Move → List Happening
  | [] => []
  | move :: moves =>
    (traffic.step simulation move).1 :: (traffic.step simulation move).2.history simulation moves

/-- A create call that nothing overlaps is one of a session. -/
theorem after_create (simulation : Simulation) (traffic : Traffic) (method : CreateMethod)
    (request : CreateRequest) :
    traffic.after simulation [.create method request, .wait (simulation.delay request.name),
        .complete traffic.underway.length]
      = { traffic with session := (traffic.session.create simulation method request).2.2 } := by
  simp [after, step, Session.create, List.eraseIdx_append_of_length_le]

/-! ### What a call and a step do -/

/-- A create call fails with the fault for it, and else there is a node. -/
theorem complete_cases (simulation : Simulation) (session : Session) (method : CreateMethod)
    (request : CreateRequest) :
    (simulation.fault? request.name = some .creation
        ∧ ∃ logs, Session.complete simulation session method request
          = (.failed ⟨"simulated creation failure", []⟩, logs,
              { session with nodes := session.nodes ++ [none] }))
      ∨ (simulation.fault? request.name ≠ some .creation
        ∧ ∃ logs, Session.complete simulation session method request
          = (.node ⟨request.name, Record.bootId session.record.boots,
                simulation.fault? request.name⟩, logs,
              { session with
                record := session.record.create method.role request.name
                nodes := session.nodes ++ [some ⟨request.name,
                  Record.bootId session.record.boots, simulation.fault? request.name⟩] })) := by
  by_cases hfault : simulation.fault? request.name = some .creation
  · exact .inl ⟨hfault, _, by simp only [Session.complete, createReply, if_pos hfault]; rfl⟩
  · exact .inr ⟨hfault, _, by simp only [Session.complete, createReply, if_neg hfault]; rfl⟩

/-- A step of a node fails and changes nothing, or it is done. Only loading images is noted. -/
theorem take_cases (session : Session) (node : Node) (step : Step) :
    (∃ source logs, session.take node step = (.failed source, logs, session))
      ∨ ∃ logs, session.take node step = (.done, logs,
          { session with
            record :=
              if step = .loadImages then session.record.loadImages else session.record }) := by
  unfold Session.take stepOutcome
  by_cases hfault : node.fault? = some (.step step)
  · exact .inl ⟨_, _, by rw [if_pos hfault]⟩
  · exact .inr ⟨_, by rw [if_neg hfault]⟩

namespace Happening

/-- The event of which the record takes note. -/
def event? : Happening → Option Event
  | completed call (.node _) => some (.succeeded (.create call.method call.request))
  | taken .loadImages .done => some (.succeeded .loadImages)
  | _ => none

/-- The create call that has succeeded, with its node. -/
def success? : Happening → Option (OpenCall × Node)
  | completed call (.node node) => some (call, node)
  | _ => none

/-- The create call that has been made. -/
def made? : Happening → Option OpenCall
  | made call => some call
  | _ => none

/-- The create call that has taken effect, whether it has succeeded or not. -/
def completed? : Happening → Option OpenCall
  | completed call _ => some call
  | _ => none

theorem success?_eq_some_iff {happening : Happening} {call : OpenCall} {node : Node} :
    happening.success? = some (call, node) ↔ happening = .completed call (.node node) := by
  cases happening with
  | completed other answer => cases answer <;> simp [success?]
  | _ => simp [success?]

theorem created?_event? (happening : Happening) :
    happening.event?.bind Event.created?
      = happening.success?.map fun success => (success.1.method.role, success.1.request.name) := by
  cases happening with
  | completed call answer => cases answer <;> rfl
  | taken step answer => cases step <;> cases answer <;> rfl
  | _ => rfl

theorem event?_eq_none {happening : Happening}
    (hcreate : ∀ call node, happening ≠ .completed call (.node node))
    (hload : happening ≠ .taken .loadImages .done) : happening.event? = none := by
  unfold event?
  split
  · exact absurd rfl (hcreate _ _)
  · exact absurd rfl hload
  · rfl

theorem event?_eq_loadImages_iff (happening : Happening) :
    happening.event? = some (.succeeded .loadImages) ↔ happening = .taken .loadImages .done := by
  cases happening with
  | completed call answer => cases answer <;> simp [event?]
  | taken step answer => cases step <;> cases answer <;> simp [event?]
  | _ => simp [event?]

end Happening

section
variable (simulation : Simulation) (traffic : Traffic)

/-- A move that is to complete a call completes it as its session does, or brings nothing. -/
theorem step_complete_cases (place : Nat) :
    traffic.step simulation (.complete place) = (.nothing, traffic)
      ∨ ∃ call, traffic.underway[place]? = some call ∧ traffic.step simulation (.complete place)
        = (.completed call (Session.complete simulation traffic.session call.method call.request).1,
            ⟨(Session.complete simulation traffic.session call.method call.request).2.2,
              traffic.underway.eraseIdx place⟩) := by
  cases hcall : traffic.underway[place]? with
  | none => exact .inl (by simp only [step, hcall])
  | some call =>
    by_cases hdue : call.due ≤ traffic.session.clock
    · exact .inr ⟨call, rfl, by simp only [step, hcall, if_pos hdue]⟩
    · exact .inl (by simp only [step, hcall, if_neg hdue])

/-- What a move adds to the record is what the record notes for its event, if it brings one. -/
theorem record_step (move : Move) :
    (traffic.step simulation move).2.session.record
      = (traffic.step simulation move).1.event?.toList.foldl Record.note
          traffic.session.record := by
  cases move with
  | create method request => rfl
  | wait time => rfl
  | complete place =>
    rcases traffic.step_complete_cases simulation place with hnothing | ⟨call, -, hcompleted⟩
    · rw [hnothing]
      rfl
    · rw [hcompleted]
      rcases complete_cases simulation traffic.session call.method call.request
        with ⟨-, logs, hfailed⟩ | ⟨-, logs, hnode⟩
      · rw [hfailed]
        rfl
      · rw [hnode]
        rfl
  | take number step =>
    simp only [Traffic.step, Session.step]
    cases traffic.session.node? number with
    | none => cases step <;> rfl
    | some node =>
      rcases take_cases traffic.session node step with ⟨source, logs, hfailed⟩ | ⟨logs, hdone⟩
      · simp only [hfailed]
        cases step <;> rfl
      · -- Of the steps, the record takes note of loading images.
        simp only [hdone]
        cases step <;> rfl
  | probe number =>
    simp only [Traffic.step, Session.step]
    cases traffic.session.node? number <;> rfl

/-- A call that is completed fails with the fault for it. Else it gets a node of its name, with the
boot id that is next. -/
theorem completed_cases {move : Move} {call : OpenCall} {answer : SessionAnswer}
    (h : (traffic.step simulation move).1 = .completed call answer) :
    (simulation.fault? call.request.name = some .creation
        ∧ answer = .failed ⟨"simulated creation failure", []⟩)
      ∨ (simulation.fault? call.request.name ≠ some .creation
        ∧ answer = .node ⟨call.request.name, Record.bootId traffic.session.record.boots,
            simulation.fault? call.request.name⟩) := by
  -- No other move completes a call.
  cases move with
  | create method request => exact nomatch h
  | wait time => exact nomatch h
  | complete place =>
    rcases traffic.step_complete_cases simulation place with hnothing | ⟨other, -, hcompleted⟩
    · rw [hnothing] at h
      exact nomatch h
    · rw [hcompleted] at h
      cases h
      rcases complete_cases simulation traffic.session call.method call.request
        with ⟨hfault, logs, hfailed⟩ | ⟨hfault, logs, hnode⟩
      · exact .inl ⟨hfault, by rw [hfailed]⟩
      · exact .inr ⟨hfault, by rw [hnode]⟩
  | take number step => exact nomatch h
  | probe number => exact nomatch h

theorem bootId_of_success {move : Move} {success : OpenCall × Node}
    (h : (traffic.step simulation move).1.success? = some success) :
    success.2.bootId = Record.bootId traffic.session.record.boots := by
  obtain ⟨call, node⟩ := success
  have hcompleted := Happening.success?_eq_some_iff.mp h
  rcases traffic.completed_cases simulation hcompleted with ⟨-, hfailed⟩ | ⟨-, hnode⟩
  · exact nomatch hfailed
  · cases hnode
    rfl

/-- The calls that are under way and the one that is made are those that are completed or still
under way after the move. -/
theorem underway_step (move : Move) :
    (traffic.underway ++ (traffic.step simulation move).1.made?.toList).Perm
      ((traffic.step simulation move).1.completed?.toList
        ++ (traffic.step simulation move).2.underway) := by
  cases move with
  | create method request => exact .refl _
  | wait time => simp [step, Happening.made?, Happening.completed?]
  | complete place =>
    rcases traffic.step_complete_cases simulation place with hnothing | ⟨call, hcall, hcompleted⟩
    · simp [hnothing, Happening.made?, Happening.completed?]
    · obtain ⟨hplace, rfl⟩ := List.getElem?_eq_some_iff.mp hcall
      simpa [hcompleted, Happening.made?, Happening.completed?]
        using (List.getElem_cons_eraseIdx_perm hplace).symm
  | take number step => simp [Traffic.step, Happening.made?, Happening.completed?]
  | probe number => simp [Traffic.step, Happening.made?, Happening.completed?]

/-- The boot counter counts the calls that succeed. -/
theorem boots_step (move : Move) :
    (traffic.step simulation move).2.session.record.boots = traffic.session.record.boots
      + UInt64.ofNat (traffic.step simulation move).1.success?.toList.length := by
  rw [record_step]
  cases (traffic.step simulation move).1 with
  | completed call answer => cases answer <;> simp [Happening.event?, Happening.success?,
      Record.note, Record.create]
  | taken step answer => cases step <;> cases answer <;> simp [Happening.event?,
      Happening.success?, Record.note, Record.loadImages]
  | _ => simp [Happening.event?, Happening.success?]

/-! ### Histories -/

theorem filterMap_cons_toList {α β : Type} (f : α → Option β) (x : α) (xs : List α) :
    (x :: xs).filterMap f = (f x).toList ++ xs.filterMap f := by
  rw [List.filterMap_cons]
  cases f x <;> rfl

/-- The record is that of the events that have happened. -/
theorem record_after (moves : List Move) :
    (traffic.after simulation moves).session.record
      = ((traffic.history simulation moves).filterMap Happening.event?).foldl Record.note
          traffic.session.record := by
  induction moves generalizing traffic with
  | nil => rfl
  | cons move moves ih =>
    rw [after, history, ih, record_step, filterMap_cons_toList, List.foldl_append]

/-- The create calls that succeed, in the order in which they do, with their nodes. -/
def successes (moves : List Move) : List (OpenCall × Node) :=
  (traffic.history simulation moves).filterMap Happening.success?

theorem bootId_of_successes {moves : List Move} {i : Nat} {success : OpenCall × Node}
    (h : (traffic.successes simulation moves)[i]? = some success) :
    success.2.bootId = Record.bootId (traffic.session.record.boots + UInt64.ofNat i) := by
  -- By induction on the moves, from any traffic: a success moves the counter on by one.
  induction moves generalizing traffic i with
  | nil => exact nomatch h
  | cons move moves ih =>
    have hboots := traffic.boots_step simulation move
    rw [successes, history, List.filterMap_cons] at h
    cases hfirst : (traffic.step simulation move).1.success? with
    | none =>
      rw [hfirst] at h hboots
      have hnode := ih _ h
      rw [hboots] at hnode
      simpa using hnode
    | some first =>
      rw [hfirst] at h hboots
      cases i with
      | zero =>
        rw [List.getElem?_cons_zero] at h
        rw [Option.some.inj h] at hfirst
        simpa using traffic.bootId_of_success simulation hfirst
      | succ i =>
        rw [List.getElem?_cons_succ] at h
        have hnode := ih _ h
        rw [hboots, UInt64.add_assoc, ← UInt64.ofNat_add] at hnode
        rwa [Nat.add_comm i 1]

/-- The calls that were under way and those that are made are those that are completed and those
that are still under way. -/
theorem underway_after (moves : List Move) :
    (traffic.underway ++ (traffic.history simulation moves).filterMap Happening.made?).Perm
      ((traffic.history simulation moves).filterMap Happening.completed?
        ++ (traffic.after simulation moves).underway) := by
  induction moves generalizing traffic with
  | nil => simp [history, after]
  | cons move moves ih =>
    have hfirst := traffic.underway_step simulation move
    have hrest := ih (traffic.step simulation move).2
    rw [history, after, filterMap_cons_toList, filterMap_cons_toList, ← List.append_assoc,
      List.append_assoc (traffic.step simulation move).1.completed?.toList]
    refine (hfirst.append_right _).trans ?_
    rw [List.append_assoc]
    exact hrest.append_left _

/-- What holds of one move holds of all that is in the history. -/
theorem exists_of_mem_history {moves : List Move} {happening : Happening}
    (h : happening ∈ traffic.history simulation moves) :
    ∃ (state : Traffic) (move : Move), (state.step simulation move).1 = happening := by
  induction moves generalizing traffic with
  | nil => exact nomatch h
  | cons move moves ih =>
    rcases List.mem_cons.mp h with hfirst | hrest
    · exact ⟨traffic, move, hfirst.symm⟩
    · exact ih _ hrest

end

/-! ### The record -/

/-- What the record of a provider says after some moves, whatever has overlapped. -/
structure Faithful (simulation : Simulation) (moves : List Move) : Prop where
  /-- The nodes that are listed are those of the create calls that have succeeded, in the order in
  which they have, each with the role of the method that was called. -/
  created : (after simulation {} moves).session.record.created
    = (successes simulation {} moves).map fun success =>
        (success.1.method.role, success.1.request.name)
  /-- The boot id of a node is spelled with 16 digits and says how many calls have succeeded
  before. After `2 ^ 64` calls the numbers start again. -/
  bootIds : ∀ i call node, (successes simulation {} moves)[i]? = some (call, node) →
    ∃ chars : List Char, chars.length = 16 ∧ Text.Spells chars (i % 2 ^ 64)
      ∧ node.bootId = "boot_" ++ String.ofList chars
  /-- Until then, all boot ids are different. -/
  distinct : (successes simulation {} moves).length ≤ 2 ^ 64 →
    ((successes simulation {} moves).map fun success => success.2.bootId).Nodup
  /-- Every call that is made is completed once or still under way, and no other call is. -/
  completed : ((history simulation {} moves).filterMap Happening.made?).Perm
    ((history simulation {} moves).filterMap Happening.completed?
      ++ (after simulation {} moves).underway)
  /-- A call fails if its node has the fault for it. Else there is a node of its name. -/
  outcome : ∀ call answer, .completed call answer ∈ history simulation {} moves →
    if simulation.fault? call.request.name = some .creation then
      answer = .failed ⟨"simulated creation failure", []⟩
    else ∃ node, answer = .node node ∧ node.name = call.request.name
  /-- Images have been loaded as often as the step for it has been done. -/
  imagesLoaded : (after simulation {} moves).session.record.imagesLoaded
    = (history simulation {} moves).count (.taken .loadImages .done)
  /-- A call that fails changes nothing in the record. Nor does anything else, apart from creating
  nodes and loading images. -/
  unchanged : ∀ move,
    (∀ call node, ((after simulation {} moves).step simulation move).1
      ≠ .completed call (.node node)) →
    ((after simulation {} moves).step simulation move).1 ≠ .taken .loadImages .done →
    ((after simulation {} moves).step simulation move).2.session.record
      = (after simulation {} moves).session.record

/-- Before the first move, no boot id has been given out. -/
theorem bootId_of_successes_start (simulation : Simulation) {moves : List Move} {i : Nat}
    {success : OpenCall × Node} (h : (successes simulation {} moves)[i]? = some success) :
    success.2.bootId = Record.bootId (UInt64.ofNat i) := by
  have hid := bootId_of_successes simulation {} h
  rwa [show ({} : Traffic).session.record.boots = 0 from rfl, UInt64.zero_add] at hid

/-- The record of a simulated provider is faithful, however its calls overlap. -/
theorem faithful (simulation : Simulation) (moves : List Move) : Faithful simulation moves where
  created := by
    rw [record_after, Record.created_foldl, List.filterMap_filterMap, successes, List.map_filterMap]
    exact List.filterMap_congr fun happening _ => happening.created?_event?
  bootIds := by
    intro i call node h
    rw [bootId_of_successes_start simulation h, ← UInt64.ofNat_mod_size]
    exact Record.spells_bootId (Nat.mod_lt i (by decide))
  distinct := by
    intro hlength
    rw [List.nodup_iff_pairwise_ne, List.pairwise_map, List.pairwise_iff_getElem]
    intro i j hi hj hlt hsame
    rw [bootId_of_successes_start simulation (List.getElem?_eq_getElem hi),
      bootId_of_successes_start simulation (List.getElem?_eq_getElem hj)] at hsame
    -- The counter has not yet started again, so the number of a boot id is the place of its call.
    have hplace : i = j := Record.bootId_inj (by omega) (by omega) hsame
    omega
  completed := underway_after simulation {} moves
  outcome := by
    intro call answer h
    obtain ⟨state, move, hstep⟩ := exists_of_mem_history simulation {} h
    rcases state.completed_cases simulation hstep with ⟨hfault, hfailed⟩ | ⟨hfault, hnode⟩
    · rwa [if_pos hfault]
    · rw [if_neg hfault]
      exact ⟨_, hnode, rfl⟩
  imagesLoaded := by
    rw [record_after, Record.imagesLoaded_foldl, List.count_filterMap,
      show ({} : Traffic).session.record.imagesLoaded = 0 from rfl, Nat.zero_add, List.count]
    refine List.countP_congr fun happening _ => ?_
    simp [Happening.event?_eq_loadImages_iff]
  unchanged := by
    intro move hcreate hload
    rw [record_step, Happening.event?_eq_none hcreate hload]
    rfl

/-- The call for `b` overtakes the one for `a`, and the one for `c` leaves no trace. -/
example : (after { createDelay := 1, nodeDelays := [("a", 9)], faults := [("c", .creation)] } {}
      [.create .worker ⟨"a", "", "", []⟩, .create .controlPlane ⟨"b", "", "", []⟩,
        .create .worker ⟨"c", "", "", []⟩, .wait 4, .complete 2, .complete 1, .complete 0, .wait 5,
        .complete 0]).session.record
    = { created := [(.controlPlane, "b"), (.worker, "a")], boots := 2 } := by
  decide

end Traffic

end ClusterProvision.Simulation
