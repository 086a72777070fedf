/-!
# `ClusterProvision.Toml.Scan`: blanks, comments and line ends

Readers of this format take a list of characters and give back what is left of it.
A line ends with a line feed or with carriage return and line feed; a carriage return
alone is no line end and is allowed nowhere. Comments and texts hold no control
character but the tab.
-/

set_option autoImplicit false

namespace ClusterProvision.Toml

/-- Space and tab. -/
def isSpace (c : Char) : Bool := c == ' ' || c == '\t'

/-- A character that may stand in a comment or, unescaped, in a text of one line. -/
def isText (c : Char) : Bool :=
  c == '\t' || (0x20 ≤ c.toNat && c.toNat != 0x7F)

/-- Skips spaces and tabs. -/
def skipSpace (cs : List Char) : List Char := cs.dropWhile isSpace

/-- What follows a line end at the front. -/
def newline? : List Char → Option (List Char)
  | '\n' :: rest => some rest
  | '\r' :: '\n' :: rest => some rest
  | _ => none

/-- Skips a comment, up to the end of its line. -/
def skipComment : List Char → List Char
  | '#' :: rest => rest.dropWhile isText
  | cs => cs

/-- Finishes a line: blanks, a comment, and a line end or the end of the document. -/
def lineEnd? (cs : List Char) : Option (List Char) :=
  match skipComment (skipSpace cs) with
  | [] => some []
  | rest => newline? rest

/-- Skips blanks and line ends, as many as there are. -/
def skipLines (cs : List Char) : List Char :=
  match newline? (skipSpace cs) with
  | some rest => if rest.length < cs.length then skipLines rest else rest
  | none => skipSpace cs
termination_by cs.length

/-- Skips blanks, comments and line ends, as many as there are. -/
def skipFiller (cs : List Char) : List Char :=
  match newline? (skipComment (skipSpace cs)) with
  | some rest => if rest.length < cs.length then skipFiller rest else rest
  | none => skipComment (skipSpace cs)
termination_by cs.length

end ClusterProvision.Toml
