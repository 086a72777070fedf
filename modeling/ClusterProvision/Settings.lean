import ClusterProvision.ErrorChain
import ClusterProvision.Role
import ClusterProvision.Text.Blank
import ClusterProvision.Text.Parts
import ClusterProvision.Text.Quoted

/-!
# `ClusterProvision.Settings`: how a run is to behave

Two settings can come from the environment: what to do when a node's images cannot be
loaded, and the order of the roles. They are asked for in this order, and the first one
that cannot be used ends the inquiry. Times are in milliseconds.
-/

set_option autoImplicit false

namespace ClusterProvision

/-- What to do when images cannot be loaded into a node. -/
inductive ImagePolicy where
  /-- Note it and keep the node. -/
  | bestEffort
  /-- Give up the node, and the run with it. -/
  | required
  deriving DecidableEq, Repr, Inhabited

/-- How a run is to behave. -/
structure Settings where
  roleOrder : List Role := Role.known
  imagePolicy : ImagePolicy := .bestEffort
  readyTimeout : Nat := 30000
  pollInterval : Nat := 250
  deriving DecidableEq, Repr, Inhabited

/-- Why settings cannot be used. -/
inductive SettingsFault where
  | unknownPolicy (value : String)
  | noRoles
  | unknownRole (role : String)
  | unreadable (cause : ErrorChain)
  deriving DecidableEq, Repr

/-- The chain of messages for a fault. -/
def SettingsFault.chain : SettingsFault → ErrorChain
  | unknownPolicy value =>
    ⟨"unknown image load policy: " ++ value ++ " (expected best-effort or required)", []⟩
  | noRoles => ⟨"role order is empty", []⟩
  | unknownRole role => ⟨"unknown role in role order: " ++ role, []⟩
  | unreadable cause => cause

namespace ImagePolicy

/-- The name of a policy. -/
def name : ImagePolicy → String
  | bestEffort => "best-effort"
  | required => "required"

/-- The policy with a name. -/
def ofName (text : String) : Except SettingsFault ImagePolicy :=
  if text = "best-effort" then .ok bestEffort
  else if text = "required" then .ok required
  else .error (.unknownPolicy text)

end ImagePolicy

/-- The names in a list of names: the parts between commas, without the white space around
them, and without the parts that hold nothing else. -/
def listedNames (text : String) : List String :=
  ((Text.parts ',' text.toList).map Text.trimmed).filter (· ≠ []) |>.map String.ofList

/-- The roles that a text lists, all of them known and at least one. -/
def Settings.parseRoles (text : String) : Except SettingsFault (List Role) :=
  let roles := (listedNames text).map Role.ofWire
  if roles.isEmpty then .error .noRoles
  else match roles.find? (!·.isKnown) with
    | some role => .error (.unknownRole role.wire)
    | none => .ok roles

/-- An answer, and the names that were asked for on the way to it, in order. -/
structure Inquiry (α : Type) where
  asked : List String
  answer : α

namespace Settings

/-- The variable that names the image policy. -/
def policyVariable : String := "KINDLING_IMAGE_LOAD_POLICY"

/-- The variable that lists the roles in order. -/
def orderVariable : String := "KINDLING_ROLE_ORDER"

/-- A setting from the result of looking up its variable. -/
def choose {α : Type} (fallback : α) (parse : String → Except SettingsFault α) :
    Except ErrorChain (Option String) → Except SettingsFault α
  | .error cause => .error (.unreadable cause)
  | .ok none => .ok fallback
  | .ok (some text) => parse text

/-- The settings that variables give, where `lookup` gives the value of a variable, or
nothing if it is unset. -/
def ofLookup (lookup : String → Except ErrorChain (Option String)) :
    Inquiry (Except SettingsFault Settings) :=
  let base : Settings := {}
  match choose base.imagePolicy ImagePolicy.ofName (lookup policyVariable) with
  | .error fault => ⟨[policyVariable], .error fault⟩
  | .ok imagePolicy =>
    ⟨[policyVariable, orderVariable], do
      let roleOrder ← choose base.roleOrder parseRoles (lookup orderVariable)
      return { base with imagePolicy, roleOrder }⟩

/-- A variable of an environment as text. -/
def textOf (environment : String → Option (List UInt8)) (name : String) :
    Except ErrorChain (Option String) :=
  match environment name with
  | none => .ok none
  | some bytes =>
    match Text.ofUtf8? bytes with
    | some text => .ok (some text)
    | none => .error ⟨name ++ " is not valid unicode: " ++ Text.quotedBytes bytes, []⟩

/-- The settings that an environment gives. -/
def ofEnvironment (environment : String → Option (List UInt8)) : Except SettingsFault Settings :=
  (ofLookup (textOf environment)).answer

end Settings
end ClusterProvision
