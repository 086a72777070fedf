import ClusterProvision.Toml.Definition
import ClusterProvision.Toml.Moment
import ClusterProvision.Toml.Quotation

/-!
# `ClusterProvision.Toml.Reader`: reading a document

A document is a sequence of lines, each empty, a header or a key with its value. Lists
and inline tables may span lines, hold comments and end with a comma, and nest at most
80 deep. `read?` gives the table that a document defines; it gives nothing for a text
that is no document, and does not say why.
-/

set_option autoImplicit false

namespace ClusterProvision.Toml

/-- A character of a key without quotes. -/
def isBare (c : Char) : Bool := c.isAlphanum || c == '_' || c == '-'

/-- A character of a value without quotes: all up to a blank, a comment or a bracket. -/
def isPlain (c : Char) : Bool :=
  !(isSpace c || c == '\n' || c == '\r' || c == '#' || c == ',' || c == '='
    || c == '[' || c == ']' || c == '\x7b' || c == '\x7d')

/-- Reads one part of a key. -/
def keyPart? (cs : List Char) : Option (String × List Char) :=
  if (cs.takeWhile isBare).isEmpty then quotedKey? cs
  else some (String.ofList (cs.takeWhile isBare), cs.dropWhile isBare)

/-- Reads a key: parts between points, with blanks around them. Gives all parts but the
last, the last part, and what follows. -/
def key? (cs : List Char) : Option (List String × String × List Char) :=
  match keyPart? (skipSpace cs) with
  | none => none
  | some (part, after) =>
    match skipSpace after with
    | '.' :: rest =>
      if rest.length < cs.length then
        (key? rest).map fun (path, last, after) => (part :: path, last, after)
      else none
    | after => some ([], part, after)
termination_by cs.length

/-- The value that a text without quotes stands for. -/
def plain? (cs : List Char) : Option Value :=
  if cs = ['t', 'r', 'u', 'e'] then some (.boolean true)
  else if cs = ['f', 'a', 'l', 's', 'e'] then some (.boolean false)
  else if isMoment cs then some (.datetime (String.ofList cs))
  else match integer? cs with
    | some n => some (.integer n)
    | none => (float? cs).map .float

/-- The characters of a value without quotes. A blank is part of it between a date and a
digit, where it joins the date with a time of day. -/
def plainFront (cs : List Char) : List Char :=
  let front := cs.takeWhile isPlain
  match date? front, cs.dropWhile isPlain with
  | some [], ' ' :: c :: rest =>
    if isDecimal c then front ++ ' ' :: (c :: rest).takeWhile isPlain else front
  | _, _ => front

/-- Reads the elements of a list and the closing bracket. -/
def elements? (item? : List Char → Option (Value × List Char)) (cs : List Char) :
    Option (List Value × List Char) :=
  match skipFiller cs with
  | ']' :: rest => some ([], rest)
  | start =>
    match item? start with
    | none => none
    | some (v, after) =>
      match skipFiller after with
      | ']' :: rest => some ([v], rest)
      | ',' :: rest =>
        if rest.length < cs.length then
          (elements? item? rest).map fun (vs, after) => (v :: vs, after)
        else none
      | _ => none
termination_by cs.length

/-- Reads the entries of an inline table and the closing brace, on top of those read before. -/
def entries? (item? : List Char → Option (Value × List Char)) (table : Definition.Table)
    (cs : List Char) : Option (Definition.Table × List Char) :=
  match skipFiller cs with
  | '\x7d' :: rest => some (table, rest)
  | start => do
    let (path, key, after) ← key? start
    let after ← expect? '=' after
    let (v, after) ← item? (skipSpace after)
    let table ← Definition.assign path key v table
    match skipFiller after with
    | '\x7d' :: rest => some (table, rest)
    | ',' :: rest => if rest.length < cs.length then entries? item? table rest else none
    | _ => none
termination_by cs.length

/-- Reads a value in which lists and inline tables nest at most `depth` deep. -/
def value? : Nat → List Char → Option (Value × List Char)
  | _, '"' :: rest =>
    (quotation? ('"' :: rest)).map fun (text, after) => (.string text, after)
  | _, '\'' :: rest =>
    (quotation? ('\'' :: rest)).map fun (text, after) => (.string text, after)
  | depth + 1, '[' :: rest =>
    (elements? (value? depth) rest).map fun (vs, after) => (.array vs, after)
  | depth + 1, '\x7b' :: rest =>
    (entries? (value? depth) Definition.empty rest).map fun ((_, es), after) =>
      (.table (entriesToValues es), after)
  | _, cs =>
    let front := plainFront cs
    (plain? front).map fun v => (v, cs.drop front.length)

/-- How deep lists and inline tables may nest. -/
def maxDepth : Nat := 80

/-- What has been read of a document: its definitions, and the header that the next keys
belong to. -/
structure State where
  root : Definition.Table
  header : List String

/-- Reads the rest of a header after its opening brackets, and the closing ones. -/
def header? (closing : Nat) (cs : List Char) : Option (List String × String × List Char) := do
  let (path, key, after) ← key? cs
  if after.take closing = List.replicate closing ']' then
    some (path, key, after.drop closing)
  else none

/-- Reads one line that is neither empty nor a comment, but not its end. -/
def line? (state : State) : List Char → Option (State × List Char)
  | '[' :: '[' :: rest => do
    let (path, key, after) ← header? 2 rest
    let root ← Definition.openElement path key state.root
    return (⟨root, path ++ [key]⟩, after)
  | '[' :: rest => do
    let (path, key, after) ← header? 1 rest
    let root ← Definition.openTable path key state.root
    return (⟨root, path ++ [key]⟩, after)
  | cs => do
    let (path, key, after) ← key? cs
    let after ← expect? '=' after
    let (v, after) ← value? maxDepth (skipSpace after)
    let root ← Definition.alter false state.header (Definition.assign path key v) state.root
    return (⟨root, state.header⟩, after)

/-- Reads the lines of a document. -/
def lines? (state : State) (cs : List Char) : Option State :=
  match skipFiller cs with
  | [] => some state
  | start => do
    let (state, after) ← line? state start
    let after ← lineEnd? after
    if after.length < cs.length then lines? state after else none
termination_by cs.length

/-- The table that a document defines. A byte-order mark in front is skipped. -/
def read? (text : String) : Option (List (String × Value)) :=
  let cs := match text.toList with
    | '\ufeff' :: rest => rest
    | cs => cs
  (lines? ⟨Definition.empty, []⟩ cs).map fun state => entriesToValues state.root.2

end ClusterProvision.Toml
