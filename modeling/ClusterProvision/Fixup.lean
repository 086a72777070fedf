import ClusterProvision.Settings
import ClusterProvision.Timed

/-!
# `ClusterProvision.Fixup`: getting a created node ready

The steps are taken in turn: the mounts are fixed, the proxy is set if there is one, the
start is signalled, the container runtime is waited for, and images are loaded. The
deadline for the runtime counts from the signal. A step that fails ends the work, except
that images that cannot be loaded are only noted under the policy `bestEffort`.
-/

set_option autoImplicit false

namespace ClusterProvision.Fixup

open Timed

/-- Notes that a step begins. -/
def announce (node : String) (step : Step) : Timed Unit :=
  log ⟨.debug, "Running fixup step", [("node", .text node), ("step", .text step.name)]⟩

/-- Takes a step that must not fail. -/
def take (node : String) (step : Step) (c : Call) (reply : Reply) : Timed Unit := do
  announce node step
  match ← call c reply with
  | .ok () => return
  | .error source =>
    log ⟨.warn, "Fixup step failed",
      [("node", .text node), ("step", .text step.name), ("error", .text source.outer)]⟩
    fail (.fixup node step source)

/-- Waits for the container runtime. -/
def awaitRuntime (settings : Settings) (node : String) (probing : Probing) : Timed Unit := do
  announce node .waitForDocker
  if ← awaitReady probing settings.readyTimeout settings.pollInterval then return
  log ⟨.warn, "Timed out waiting for docker",
    [("node", .text node), ("timeout_secs", .number (settings.readyTimeout / 1000))]⟩
  fail (.notReady node (.ofMillis settings.readyTimeout))

/-- Loads images. -/
def loadImages (settings : Settings) (node : String) (reply : Reply) : Timed Unit := do
  announce node .loadImages
  match ← call .loadImages reply with
  | .ok () => return
  | .error source =>
    match settings.imagePolicy with
    | .bestEffort =>
      log ⟨.warn, "Failed to load images, continuing",
        [("node", .text node), ("error", .text source.outer)]⟩
    | .required => fail (.imageLoad node source)

/-- Takes all steps for a node. -/
def run (settings : Settings) (needProxy : Bool) (node : String) (behaviour : Behaviour) :
    Timed Unit := do
  take node .fixMounts .fixMounts behaviour.fixMounts
  if needProxy then take node .setProxy .setProxy behaviour.setProxy
  take node .signalStart .signalStart behaviour.signalStart
  awaitRuntime settings node behaviour.probing
  loadImages settings node behaviour.loadImages

end ClusterProvision.Fixup
