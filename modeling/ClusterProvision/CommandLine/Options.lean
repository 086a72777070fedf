import ClusterProvision.Text.Utf8

/-!
# `ClusterProvision.CommandLine.Options`: what the command line asks for

An option has a long name. Its value is the next argument, unless that starts with a dash
and has more to it, or stands behind an equals sign. Options are taken from left to
right, each at most once, and the first one that cannot be used ends the reading; so do
the requests for help and for the version. An option that is not given can come from its
variable. The name of a file must not be empty, whatever it comes from.
-/

set_option autoImplicit false

namespace ClusterProvision.CommandLine

/-- The options, as they are given. -/
structure Options where
  config : Option (List UInt8) := none
  name : Option String := none
  label : Option String := none
  logLevel : Option String := none
  logJson : Option Bool := none
  deriving DecidableEq, Repr

/-- The options that take a value. -/
inductive Key where
  | config
  | name
  | label
  | logLevel
  deriving DecidableEq, Repr

/-- What the command line asks for. -/
inductive Request where
  | run (options : Options)
  | help
  | version
  | misuse
  deriving DecidableEq, Repr

namespace Key

/-- The long name of an option. -/
def long : Key → String
  | config => "config"
  | name => "name"
  | label => "label"
  | logLevel => "log-level"

/-- The variable of an option. -/
def var : Key → String
  | config => "KINDLING_CONFIG"
  | name => "KINDLING_CLUSTER_NAME"
  | label => "KINDLING_CLUSTER_LABEL"
  | logLevel => "KINDLING_LOG_LEVEL"

/-- All options that take a value. -/
def all : List Key := [config, name, label, logLevel]

/-- The option with a long name. -/
def ofLong? (text : String) : Option Key := all.find? (·.long = text)

end Key

namespace Options

/-- Whether an option has a value. -/
def has (options : Options) : Key → Bool
  | .config => options.config.isSome
  | .name => options.name.isSome
  | .label => options.label.isSome
  | .logLevel => options.logLevel.isSome

/-- Gives an option a value, if it may have it. -/
def set? (options : Options) (key : Key) (value : List UInt8) : Option Options :=
  match key with
  | .config => if value.isEmpty then none else some { options with config := some value }
  | .name => (Text.ofUtf8? value).map fun text => { options with name := some text }
  | .label => (Text.ofUtf8? value).map fun text => { options with label := some text }
  | .logLevel => (Text.ofUtf8? value).map fun text => { options with logLevel := some text }

/-- Gives an option its value from the command line, which may do so once. -/
def give? (options : Options) (key : Key) (value : String) : Option Options :=
  if options.has key then none else options.set? key (Text.toUtf8 value)

/-- Gives an option its value from its variable, if it has none yet. -/
def fill? (environment : String → Option (List UInt8)) (options : Options) (key : Key) :
    Option Options :=
  if options.has key then some options
  else match environment key.var with
    | some value => options.set? key value
    | none => some options

/-- The variable that asks for logs as JSON. -/
def logJsonVariable : String := "KINDLING_LOG_JSON"

/-- The truth value that a variable spells. -/
def truth? (value : List UInt8) : Option Bool :=
  if value = Text.toUtf8 "true" then some true
  else if value = Text.toUtf8 "false" then some false
  else none

/-- Takes from variables what the command line has not given. -/
def complete? (environment : String → Option (List UInt8)) (options : Options) :
    Option Options := do
  let options ← Key.all.foldlM (fill? environment) options
  if options.logJson.isSome then return options
  match environment logJsonVariable with
  | some value => return { options with logJson := some (← truth? value) }
  | none => return options

end Options

/-- The first outcome of a run of letters behind a single dash. -/
def short : List Char → Request
  | 'h' :: _ => .help
  | 'V' :: _ => .version
  | _ => .misuse

/-- A long argument, split at its first equals sign. -/
def splitLong (cs : List Char) : String × Option String :=
  let name := String.ofList (cs.takeWhile (· ≠ '='))
  match cs.dropWhile (· ≠ '=') with
  | _ :: value => (name, some (String.ofList value))
  | [] => (name, none)

/-- Whether an argument can be the value of the option before it. -/
def isValue (argument : String) : Bool :=
  match argument.toList with
  | '-' :: _ :: _ => false
  | _ => true

/-- Reads arguments, on top of the options given so far. -/
def readArguments (options : Options) : List String → Request
  | [] => .run options
  | argument :: rest =>
    match argument.toList with
    | ['-', '-'] => if rest.isEmpty then .run options else .misuse
    | '-' :: '-' :: cs =>
      match splitLong cs with
      | ("help", none) => .help
      | ("version", none) => .version
      | ("log-json", none) =>
        if options.logJson.isSome then .misuse
        else readArguments { options with logJson := some true } rest
      | (long, value?) =>
        match Key.ofLong? long, value?, rest with
        | some key, some value, rest =>
          match options.give? key value with
          | some options => readArguments options rest
          | none => .misuse
        | some key, none, value :: rest =>
          match if isValue value then options.give? key value else none with
          | some options => readArguments options rest
          | none => .misuse
        | _, _, _ => .misuse
    | '-' :: c :: cs => short (c :: cs)
    | _ => .misuse

/-- What arguments and an environment ask for. -/
def Request.ofArguments (arguments : List String)
    (environment : String → Option (List UInt8)) : Request :=
  match readArguments {} arguments with
  | .run options =>
    match options.complete? environment with
    | some options => .run options
    | none => .misuse
  | request => request

end ClusterProvision.CommandLine
