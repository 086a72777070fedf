import ClusterProvision.Proofs.Fixup
import ClusterProvision.Proofs.TimedReference

/-!
# `ClusterProvision.Proofs.ImagePolicy`: the two image policies compared

A run under the policy that requires images is the strict one, a run under the policy that does
without them the lenient one. The images of a node come last in its work. So the work has the same
course under both policies, unless the images cannot be loaded: then the strict work fails where
the lenient work is done (`Course.Spared`). That holds step by step (`Timed.Softens.after`) and for
the whole of a node (`NodeRun.softens_course`).

What a run comes to follows from the courses of its nodes, and so does the comparison of two runs
(`Provisioning.Refines`). `Provisioning.policyMatters_ofSpecs` has it for all orders of the moves of
one time, in both runs.
-/

set_option autoImplicit false

namespace ClusterProvision

/-- Settings with another image policy. -/
def Settings.withPolicy (settings : Settings) (policy : ImagePolicy) : Settings :=
  { settings with imagePolicy := policy }

/-! ### The work for a node -/

section
variable {α : Type}

/-- The strict work for a node fails for want of its images. The lenient work is done with the same
events at the same time. -/
structure Course.Spared (node : String) (strict lenient : Course α) : Prop where
  failed : ∃ source, strict.ending = .failed (.imageLoad node source)
  done : ∃ a, lenient.ending = .done a
  finish : lenient.finish = strict.finish
  events : lenient.events = strict.events

/-- The lenient work for a node takes the course of the strict one, or it is spared a failure. -/
def Course.Softens (node : String) (strict lenient : Course α) : Prop :=
  lenient = strict ∨ Spared node strict lenient

namespace Course.Softens

variable {node : String} {strict lenient : Course α} (h : Softens node strict lenient)
include h

theorem finish : lenient.finish = strict.finish := by
  rcases h with rfl | hspared
  · rfl
  · exact hspared.finish

/-- The strict work is spared nothing unless it fails for want of images. -/
theorem eq_of_strict (hother : ∀ node source, strict.ending ≠ .failed (.imageLoad node source)) :
    lenient = strict := by
  rcases h with hsame | hspared
  · exact hsame
  · obtain ⟨source, hfailed⟩ := hspared.failed
    exact absurd hfailed (hother node source)

/-- The lenient work has been spared nothing unless it is done. -/
theorem eq_of_lenient (hother : ∀ a, lenient.ending ≠ .done a) : lenient = strict := by
  rcases h with hsame | hspared
  · exact hsame
  · obtain ⟨a, hdone⟩ := hspared.done
    exact absurd hdone (hother a)

end Course.Softens

end

namespace Timed

variable {α : Type} {node : String}

/-- Work that softens other work, whenever both start. -/
def Softens (node : String) (strict lenient : Timed Unit) : Prop :=
  ∀ now, Course.Softens node (strict now) (lenient now)

theorem Softens.refl (work : Timed Unit) : Softens node work work := fun _ => .inl rfl

/-- What comes before does not depend on the policy. -/
theorem Softens.after (work : Timed α) {strict lenient : α → Timed Unit}
    (h : ∀ a, Softens node (strict a) (lenient a)) :
    Softens node (work >>= strict) (work >>= lenient) := by
  intro now
  cases hending : (work now).ending with
  | done a =>
    rw [bind_of_done hending, bind_of_done hending]
    rcases h a (work now).finish with hsame | hspared
    · left
      rw [hsame]
    · right
      exact ⟨hspared.failed, hspared.done, hspared.finish,
        congrArg ((work now).events ++ ·) hspared.events⟩
  | failed failure =>
    left
    rw [bind_of_failed hending, bind_of_failed hending]
  | panicked =>
    left
    rw [bind_of_panicked hending, bind_of_panicked hending]

end Timed

open Timed

section
variable (settings : Settings)

namespace Fixup

/-- Only the loading of the images asks for the policy. -/
theorem softens_loadImages (node : String) (reply : Reply) :
    Softens node (loadImages (settings.withPolicy .required) node reply)
      (loadImages (settings.withPolicy .bestEffort) node reply) := by
  refine .after (announce node .loadImages) fun _ => ?_
  refine .after (call .loadImages reply) fun outcome => ?_
  cases outcome with
  | ok done => exact .refl _
  | error source =>
    intro now
    right
    exact ⟨⟨source, rfl⟩, ⟨(), rfl⟩, rfl, rfl⟩

theorem softens_run (needProxy : Bool) (node : String) (behaviour : Behaviour) :
    Softens node (run (settings.withPolicy .required) needProxy node behaviour)
      (run (settings.withPolicy .bestEffort) needProxy node behaviour) := by
  rw [run_eq_bind, run_eq_bind]
  refine .after (prepare needProxy node behaviour) fun _ => ?_
  -- The wait is the same wait under both policies.
  exact .after (awaitRuntime settings node behaviour.probing) fun _ =>
    softens_loadImages settings node behaviour.loadImages

/-- Without the policy that requires images, their want is no failure. -/
theorem failsWith_run_bestEffort (needProxy : Bool) (node : String) (behaviour : Behaviour) :
    FailsWith (fun failure => ∀ blamed source, failure ≠ .imageLoad blamed source)
      (run (settings.withPolicy .bestEffort) needProxy node behaviour) := by
  rw [run_eq_bind]
  refine FailsWith.bind ?_ fun _ => FailsWith.bind ?_ fun _ => ?_
  · intro now failure h
    obtain ⟨step, source, rfl⟩ := failsWith_prepare _ _ _ _ _ h
    exact fun _ _ hother => nomatch hother
  · intro now failure h
    rw [failsWith_awaitRuntime _ _ _ _ _ h]
    exact fun _ _ hother => nomatch hother
  · intro now failure h
    exact nomatch (failsWith_loadImages _ _ _ _ _ h).1

end Fixup

namespace NodeRun

variable (provider : Provider) (label : String) (spec : NodeSpec)

/-- A node's task has the same course under both policies, unless its images cannot be loaded. -/
theorem softens_course :
    Course.Softens spec.name (course (settings.withPolicy .required) provider label spec)
      (course (settings.withPolicy .bestEffort) provider label spec) := by
  have hwork : Softens spec.name (provision (settings.withPolicy .required) provider label spec)
      (provision (settings.withPolicy .bestEffort) provider label spec) :=
    .after (create label (provider.behaviour spec.name) spec) fun _ =>
      Fixup.softens_run settings provider.needProxy spec.name (provider.behaviour spec.name)
  rcases hwork 0 with hsame | hspared
  · left
    exact congrArg (ofWork spec) hsame
  · right
    obtain ⟨source, hfailed⟩ := hspared.failed
    obtain ⟨_, hdone⟩ := hspared.done
    exact ⟨⟨source, ofWork_failed.mpr hfailed⟩, ⟨_, ofWork_done.mpr ⟨hdone, rfl⟩⟩,
      hspared.finish, hspared.events⟩

theorem failsWith_create (behaviour : Behaviour) :
    FailsWith (fun failure => failure = .invalidRole spec.name spec.role
        ∨ ∃ source, failure = .creation spec.name source)
      (create label behaviour spec) := by
  unfold create
  cases spec.role.createMethod? with
  | none => exact failsWith_fail (.inl rfl)
  | some method =>
    refine FailsWith.bind (failsWith_call _ _) fun outcome => ?_
    cases outcome with
    | ok done => exact failsWith_pure _
    | error source => exact failsWith_fail (.inr ⟨source, rfl⟩)

/-- Under the lenient policy no node fails for want of images. -/
theorem ending_course_ne_imageLoad (node : String) (source : ErrorChain) :
    (course (settings.withPolicy .bestEffort) provider label spec).ending
      ≠ .failed (.imageLoad node source) := by
  intro hfailed
  rcases cases_of_bind_failed (ofWork_failed.mp hfailed) with hcreate | ⟨_, -, hrun⟩
  · rcases failsWith_create _ _ _ _ _ hcreate with hother | ⟨_, hother⟩
    · exact nomatch hother
    · exact nomatch hother
  · exact Fixup.failsWith_run_bestEffort settings _ _ _ _ _ hrun node source rfl

end NodeRun
end

/-! ### Whole runs -/

namespace Provisioning

/-- No two nodes of a list fail at one time. -/
def Apart (alone : NodeSpec → Course ReadyNode) (specs : List NodeSpec) : Prop :=
  ∀ (place otherPlace : Nat) (spec other : NodeSpec) (failure otherFailure : Failure),
    specs[place]? = some spec → specs[otherPlace]? = some other →
    (alone spec).ending = .failed failure → (alone other).ending = .failed otherFailure →
    (alone spec).finish = (alone other).finish → place = otherPlace

/-- How what a lenient run returns, and when, compares with what the strict one returns. The nodes'
tasks have the courses `lenientAlone` in the lenient run. -/
structure Refines (lenientAlone : NodeSpec → Course ReadyNode) (specs : List NodeSpec)
    (strict : Except Failure (List ReadyNode)) (strictTime : Nat)
    (lenient : Except Failure (List ReadyNode)) (lenientTime : Nat) : Prop where
  /-- If the strict run returns nodes, the lenient one returns them, at the same time. -/
  ready : ∀ nodes, strict = .ok nodes →
    ∃ others, lenient = .ok others ∧ others.Perm nodes ∧ lenientTime = strictTime
  /-- If the lenient run fails, the strict one does, and no later. -/
  noLater : ∀ failure, lenient = .error failure →
    ∃ other, strict = .error other ∧ strictTime ≤ lenientTime
  /-- The lenient run does not fail for want of images. -/
  noImages : ∀ node source, lenient ≠ .error (.imageLoad node source)
  /-- If the strict run fails for another reason, the lenient one fails at the same time, and for
  the same reason if no two nodes fail at one time. -/
  otherwise : ∀ failure, strict = .error failure →
    (∀ node source, failure ≠ .imageLoad node source) →
    ∃ other, lenient = .error other ∧ lenientTime = strictTime
      ∧ (Apart lenientAlone specs → other = failure)

section
variable {strictAlone lenientAlone : NodeSpec → Course ReadyNode} {specs : List NodeSpec}
  (hsoftens : ∀ spec ∈ specs, Course.Softens spec.name (strictAlone spec) (lenientAlone spec))
include hsoftens

/-- The tasks of both runs end at the same times. -/
theorem map_finish_of_softens {β : Type} (f : NodeSpec → Nat → β) :
    specs.map (fun spec => f spec (lenientAlone spec).finish)
      = specs.map fun spec => f spec (strictAlone spec).finish :=
  List.map_congr_left fun spec hspec => congrArg (f spec) (hsoftens spec hspec).finish

variable {strict lenient : Except Failure (List ReadyNode)} {strictTime lenientTime : Nat}
  (hstrict : TimedReference strictAlone specs strict strictTime)
include hstrict

/-- When the strict run returns nodes, no node has been spared anything. -/
theorem courses_of_strict_ok {nodes : List ReadyNode} (hok : strict = .ok nodes) :
    ∀ spec ∈ specs, lenientAlone spec = strictAlone spec := by
  intro spec hspec
  obtain ⟨node, hdone⟩ := hstrict.ok_iff_done.mp ⟨nodes, hok⟩ spec hspec
  refine (hsoftens spec hspec).eq_of_strict fun blamed source hfailed => ?_
  exact nomatch hdone.symm.trans hfailed

variable (hlenient : TimedReference lenientAlone specs lenient lenientTime)
include hlenient

theorem ready_of_softens {nodes : List ReadyNode} (hok : strict = .ok nodes) :
    ∃ others, lenient = .ok others ∧ others.Perm nodes ∧ lenientTime = strictTime := by
  have hdone := hstrict.ok_iff_done.mp ⟨nodes, hok⟩
  have hsame := courses_of_strict_ok hsoftens hstrict hok
  cases hspecs : specs with
  | nil =>
    obtain ⟨hnone, htime⟩ := hstrict.empty hspecs
    obtain ⟨hlenientNone, hlenientTime⟩ := hlenient.empty hspecs
    cases hok.symm.trans hnone
    exact ⟨[], hlenientNone, .refl _, hlenientTime.trans htime.symm⟩
  | cons first rest =>
    have hne : specs ≠ [] := by
      rw [hspecs]
      exact List.cons_ne_nil _ _
    have hlenientDone : ∀ spec ∈ specs, ∃ node, (lenientAlone spec).ending = .done node := by
      intro spec hspec
      rw [hsame spec hspec]
      exact hdone spec hspec
    obtain ⟨_, hreturned, hperm, -, hlast⟩ := hstrict.ready hne hdone
    obtain ⟨others, hothers, hotherPerm, -, hotherLast⟩ := hlenient.ready hne hlenientDone
    cases hok.symm.trans hreturned
    rw [map_finish_of_softens hsoftens fun spec finish =>
      (⟨spec.name, spec.role, finish⟩ : ReadyNode)] at hotherPerm
    rw [map_finish_of_softens hsoftens fun _ finish => finish, hlast] at hotherLast
    exact ⟨others, hothers, hotherPerm.trans hperm.symm, (Option.some.inj hotherLast).symm⟩

theorem noLater_of_softens {failure : Failure} (herror : lenient = .error failure) :
    ∃ other, strict = .error other ∧ strictTime ≤ lenientTime := by
  cases hresult : strict with
  | ok nodes =>
    obtain ⟨others, hok, -⟩ := ready_of_softens hsoftens hstrict hlenient hresult
    exact nomatch herror.symm.trans hok
  | error other =>
    refine ⟨other, rfl, ?_⟩
    rcases hlenient.cases_of_error herror with ⟨place, spec, hspec, hfailed, hfinish⟩
      | ⟨-, -, -, hlast⟩
    · -- The node that fails in the lenient run fails in the strict one, too.
      have hmem := List.mem_of_getElem? hspec
      have hsame : lenientAlone spec = strictAlone spec := by
        refine (hsoftens spec hmem).eq_of_lenient fun node hdone => ?_
        exact nomatch hfailed.symm.trans hdone
      rw [hsame] at hfailed hfinish
      rw [← hfinish]
      exact hstrict.time_le_of_failed hmem hfailed
    · -- The lenient run waits for all its tasks, and those of the strict run end when they do.
      refine hstrict.time_le_of_finish_le fun spec hspec => ?_
      rw [← (hsoftens spec hspec).finish]
      exact (List.max?_eq_some_iff.mp hlast).2 _ (List.mem_map_of_mem hspec)

/-- A node that fails the strict run for another reason than its images fails the lenient one. -/
theorem otherwise_of_failed {place : Nat} {spec : NodeSpec} {failure : Failure}
    (hspec : specs[place]? = some spec) (hfailed : (strictAlone spec).ending = .failed failure)
    (hfinish : (strictAlone spec).finish = strictTime)
    (hother : ∀ node source, failure ≠ .imageLoad node source) :
    ∃ other, lenient = .error other ∧ lenientTime = strictTime
      ∧ (Apart lenientAlone specs → other = failure) := by
  have hmem := List.mem_of_getElem? hspec
  have hsame : lenientAlone spec = strictAlone spec := by
    refine (hsoftens spec hmem).eq_of_strict fun node source himages => ?_
    cases hfailed.symm.trans himages
    exact hother node source rfl
  rw [← hsame] at hfailed hfinish
  cases hresult : lenient with
  | ok nodes =>
    obtain ⟨node, hdone⟩ := hlenient.ok_iff_done.mp ⟨nodes, hresult⟩ spec hmem
    exact nomatch hfailed.symm.trans hdone
  | error other =>
    obtain ⟨-, -, hlater⟩ := noLater_of_softens hsoftens hstrict hlenient hresult
    have hearlier := hlenient.time_le_of_failed hmem hfailed
    have htime : lenientTime = strictTime := by omega
    refine ⟨other, rfl, htime, fun hapart => ?_⟩
    rcases hlenient.cases_of_error hresult with
      ⟨otherPlace, otherSpec, hotherSpec, hotherFailed, hotherFinish⟩ | ⟨hnone, -⟩
    · -- Both errors fall on the time of the return, so they are those of one node.
      have hplace := hapart place otherPlace spec otherSpec failure other hspec hotherSpec hfailed
        hotherFailed (by omega)
      rw [← hplace, hspec] at hotherSpec
      cases hotherSpec
      cases hfailed.symm.trans hotherFailed
      rfl
    · exact absurd hfailed (hnone spec hmem failure)

/-- When the strict run is aborted, no node has failed in it, so none has been spared that. -/
theorem otherwise_of_aborted
    (hnone : ∀ spec ∈ specs, ∀ failure, (strictAlone spec).ending ≠ .failed failure)
    (hpanicked : 0 < specs.countP fun spec => (strictAlone spec).ending = .panicked) :
    lenient = strict ∧ lenientTime = strictTime := by
  have hsame : ∀ spec ∈ specs, lenientAlone spec = strictAlone spec := by
    intro spec hspec
    exact (hsoftens spec hspec).eq_of_strict fun _ _ => hnone spec hspec _
  have hlenientNone : ∀ spec ∈ specs, ∀ failure, (lenientAlone spec).ending ≠ .failed failure := by
    intro spec hspec
    rw [hsame spec hspec]
    exact hnone spec hspec
  have hcount : specs.countP (fun spec => (lenientAlone spec).ending = .panicked)
      = specs.countP fun spec => (strictAlone spec).ending = .panicked :=
    List.countP_congr fun spec hspec => by rw [hsame spec hspec]
  obtain ⟨hresult, hlast⟩ := hstrict.aborted hnone hpanicked
  obtain ⟨hlenientResult, hlenientLast⟩ :=
    hlenient.aborted hlenientNone (by rw [hcount]; exact hpanicked)
  rw [hcount, ← hresult] at hlenientResult
  rw [map_finish_of_softens hsoftens fun _ finish => finish, hlast] at hlenientLast
  exact ⟨hlenientResult, (Option.some.inj hlenientLast).symm⟩

/-- If the lenient tasks soften the strict ones, and none fails for want of images, the strict run
refines the lenient one. -/
theorem refines_of_softens
    (himages : ∀ spec ∈ specs, ∀ node source,
      (lenientAlone spec).ending ≠ .failed (.imageLoad node source)) :
    Refines lenientAlone specs strict strictTime lenient lenientTime where
  ready := fun _ hok => ready_of_softens hsoftens hstrict hlenient hok
  noLater := fun _ herror => noLater_of_softens hsoftens hstrict hlenient herror
  noImages := by
    intro node source herror
    rcases hlenient.cases_of_error herror with ⟨place, spec, hspec, hfailed, -⟩
      | ⟨-, -, haborted, -⟩
    · exact himages spec (List.mem_of_getElem? hspec) node source hfailed
    · exact nomatch haborted
  otherwise := by
    intro failure herror hother
    rcases hstrict.cases_of_error herror with ⟨place, spec, hspec, hfailed, hfinish⟩
      | ⟨hnone, hpanicked, -⟩
    · exact otherwise_of_failed hsoftens hstrict hlenient hspec hfailed hfinish hother
    · obtain ⟨hresult, htime⟩ := otherwise_of_aborted hsoftens hstrict hlenient hnone hpanicked
      exact ⟨failure, hresult.trans herror, htime, fun _ => rfl⟩

end

/-- What the image policy changes about the runs for some nodes. -/
structure PolicyMatters (settings : Settings) (provider : Provider) (label : String)
    (specs : List NodeSpec) : Prop where
  /-- If the strict run returns nodes, the lenient one is the same: what it returns, when it does,
  and the journal of all calls with their times. -/
  same : ∀ nodes,
    (ofSpecs (settings.withPolicy .required) provider label specs).result = .ok nodes →
      ofSpecs (settings.withPolicy .bestEffort) provider label specs
        = ofSpecs (settings.withPolicy .required) provider label specs
  /-- The strict run on the virtual clock refines the lenient one. -/
  clock :
    let strict := ofSpecs (settings.withPolicy .required) provider label specs
    let lenient := ofSpecs (settings.withPolicy .bestEffort) provider label specs
    Refines (NodeRun.course (settings.withPolicy .bestEffort) provider label) specs
      strict.result strict.returnedAt lenient.result lenient.returnedAt
  /-- So it does in whatever order the tasks of either run move that move at one time. -/
  orders : ∀ strictOrder lenientOrder,
    let strict := specs.map (NodeRun.course (settings.withPolicy .required) provider label)
    let lenient := specs.map (NodeRun.course (settings.withPolicy .bestEffort) provider label)
    Crew.Timely strict strictOrder → Crew.Timely lenient lenientOrder →
      ∃ strictResult strictTime lenientResult lenientTime,
        (Crew.along strict strictOrder).result = some strictResult
          ∧ (Crew.along strict strictOrder).returnedAt = some strictTime
          ∧ (Crew.along lenient lenientOrder).result = some lenientResult
          ∧ (Crew.along lenient lenientOrder).returnedAt = some lenientTime
          ∧ Refines (NodeRun.course (settings.withPolicy .bestEffort) provider label) specs
            strictResult strictTime lenientResult lenientTime
  /-- Under no schedule at all the lenient run fails for want of images. -/
  noImages : ∀ schedule node source,
    ((Crew.start (specs.map (NodeRun.course (settings.withPolicy .bestEffort) provider
      label))).run schedule).result ≠ some (.error (.imageLoad node source))

/-- The policy that requires images refines the one that does without them. -/
theorem policyMatters_ofSpecs (settings : Settings) (provider : Provider) (label : String)
    (specs : List NodeSpec) : PolicyMatters settings provider label specs := by
  have hsoftens := fun spec (_ : spec ∈ specs) =>
    NodeRun.softens_course settings provider label spec
  have himages := fun spec (_ : spec ∈ specs) =>
    NodeRun.ending_course_ne_imageLoad settings provider label spec
  have hstrict := reference_ofSpecs (settings.withPolicy .required) provider label specs
  have hlenient := reference_ofSpecs (settings.withPolicy .bestEffort) provider label specs
  refine { same := ?same, clock := ?clock, orders := ?orders, noImages := ?noImages }
  case same =>
    intro nodes hok
    exact ofSpecs_congr (List.map_congr_left (courses_of_strict_ok hsoftens hstrict hok))
  case clock => exact refines_of_softens hsoftens hstrict hlenient himages
  case orders =>
    intro strictOrder lenientOrder strict lenient hstrictOrder hlenientOrder
    obtain ⟨strictResult, strictTime, hresult, htime, href⟩ :=
      hstrictOrder.timedReference fun spec _ => NodeRun.isFor_course _ provider label spec
    obtain ⟨lenientResult, lenientTime, hlenientResult, hlenientTime, hlenientRef⟩ :=
      hlenientOrder.timedReference fun spec _ => NodeRun.isFor_course _ provider label spec
    exact ⟨_, _, _, _, hresult, htime, hlenientResult, hlenientTime,
      refines_of_softens hsoftens href hlenientRef himages⟩
  case noImages =>
    intro schedule node source hresult
    rcases Crew.failed_or_aborted hresult with ⟨course, hcourse, hfailed⟩
      | ⟨expected, received, haborted⟩
    · obtain ⟨spec, hspec, rfl⟩ := List.mem_map.mp hcourse
      exact himages spec hspec node source hfailed
    · exact nomatch haborted

end Provisioning

end ClusterProvision
