import ClusterProvision.ErrorChain

/-!
# `ClusterProvision.CommandLine.Report`: how an error is reported

The outermost message stands first. Its causes follow, each on a line of its own and
indented; where there is more than one, they are numbered from 0. The further lines of a
cause are indented as far as its first.
-/

set_option autoImplicit false

namespace ClusterProvision.CommandLine

/-- Text of which each line but the first is indented. -/
def hanging (indent text : String) : String :=
  String.ofList <| text.toList.flatMap fun c => if c = '\n' then c :: indent.toList else [c]

/-- A number, set to the right in five places. -/
def numbered (n : Nat) : String :=
  String.ofList (List.replicate (5 - n.repr.length) ' ') ++ n.repr ++ ": "

/-- The lines for the causes of an error. -/
def causeLines : List String → List String
  | [cause] => ["    " ++ hanging "    " cause]
  | causes => causes.zipIdx.map fun (cause, n) => numbered n ++ hanging "       " cause

/-- The report on an error. -/
def report (chain : ErrorChain) : String :=
  let causes := if chain.causes.isEmpty then []
    else ["", "Caused by:"] ++ causeLines chain.causes
  "\n".intercalate (("Error: " ++ chain.outer) :: causes) ++ "\n"

end ClusterProvision.CommandLine
