import ClusterProvision.Settings

/-!
# `ClusterProvision.Proxy`: whether a proxy is in use

A proxy is in use if one of four variables is set to something. They are asked for in
turn, up to the first that is.
-/

set_option autoImplicit false

namespace ClusterProvision.Proxy

/-- The variables that name a proxy. -/
def variableNames : List String := ["HTTP_PROXY", "HTTPS_PROXY", "http_proxy", "https_proxy"]

/-- Asks for variables until one is set to something; `isSet` gives nothing for a variable
that is unset, and else whether it is more than empty. -/
def askAll (isSet : String → Option Bool) : List String → Inquiry Bool
  | [] => ⟨[], false⟩
  | name :: rest =>
    if (isSet name).getD false then ⟨[name], true⟩
    else
      let later := askAll isSet rest
      ⟨name :: later.asked, later.answer⟩

/-- Whether a proxy is in use. -/
def ofLookup (isSet : String → Option Bool) : Inquiry Bool := askAll isSet variableNames

/-- Whether an environment names a proxy. -/
def ofEnvironment (environment : String → Option (List UInt8)) : Bool :=
  (ofLookup fun name => (environment name).map (!·.isEmpty)).answer

end ClusterProvision.Proxy
