import ClusterProvision.CommandLine.Program
import ClusterProvision.FileTree

/-!
# `ClusterProvision.Main`: the program on a real machine

Only reading the environment and a file, and printing, happen here.
-/

set_option autoImplicit false

namespace ClusterProvision

/-- All variables that the program asks for. -/
def knownVariables : List String :=
  CommandLine.Key.all.map CommandLine.Key.var
    ++ [CommandLine.Options.logJsonVariable, Settings.policyVariable, Settings.orderVariable]
    ++ Proxy.variableNames

/-- The message for a file that cannot be read. -/
def fileMessage : IO.Error → String
  | .noFileOrDirectory _ code details => details ++ " (os error " ++ toString code ++ ")"
  | .inappropriateType _ code details => details ++ " (os error " ++ toString code ++ ")"
  | .invalidArgument _ code details => details ++ " (os error " ++ toString code ++ ")"
  | .permissionDenied _ code details => details ++ " (os error " ++ toString code ++ ")"
  | fault => toString fault

/-- Reads the text of a file. -/
def readText (path : List UInt8) : IO (Except String String) := do
  if path.contains 0 then return .error ReadFault.nulInPath.message
  try
    let content ← IO.FS.readBinFile (Text.shown path)
    match Text.ofUtf8? content.toList with
    | some text => return .ok text
    | none => return .error ReadFault.notText.message
  catch fault => return .error (fileMessage fault)

end ClusterProvision

open ClusterProvision in
/-- Runs the program and gives its exit code. -/
def main (arguments : List String) : IO UInt32 := do
  let present ← knownVariables.filterMapM fun name => do
    return (← IO.getEnv name).map fun value => (name, Text.toUtf8 value)
  let environment (name : String) : Option (List UInt8) := present.lookup name
  let content ← match CommandLine.Request.ofArguments arguments environment with
    | .run options =>
      match options.config with
      | some path => readText path
      | none => pure (.ok "")
    | _ => pure (.ok "")
  let exit := CommandLine.run arguments environment fun _ => content
  IO.print exit.output
  IO.eprint exit.errors
  return exit.code.toUInt32
