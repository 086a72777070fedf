/-!
# `ClusterProvision.ErrorChain`: an error and what caused it
-/

set_option autoImplicit false

namespace ClusterProvision

/-- The message of an error, and the messages of its causes, from the nearest one on. -/
structure ErrorChain where
  outer : String
  causes : List String := []
  deriving DecidableEq, Repr, Inhabited

namespace ErrorChain

/-- All messages of a chain, outermost first. -/
def messages (chain : ErrorChain) : List String := chain.outer :: chain.causes

/-- All messages of a chain on one line. -/
def joined (chain : ErrorChain) : String := ": ".intercalate chain.messages

end ErrorChain
end ClusterProvision
