import ClusterProvision.Toml.Number
import ClusterProvision.Toml.Scan

/-!
# `ClusterProvision.Toml.Quotation`: texts in quotes

Four forms: between double quotes with escapes, between single quotes without, and
each of the two between three quotes, where line ends are part of the text. The
readers start after the opening quotes. A text of several lines drops a line end right
after its opening quotes, may hold one or two quotes in a row, and may end with one or
two quotes before the closing three.
-/

set_option autoImplicit false

namespace ClusterProvision.Toml

/-- The character with a code point; surrogates and too large numbers have none. -/
def scalar? (n : Nat) : Option Char :=
  if n < 0xD800 || (0xDFFF < n && n ≤ 0x10FFFF) then some (Char.ofNat n) else none

/-- The character whose code point stands in the first `count` hexadecimal digits. -/
def codePoint? (count : Nat) (cs : List Char) : Option Char :=
  let front := cs.take count
  if front.length = count && front.all (digitValue · < 16) then
    scalar? (ofDigits 16 (front.map digitValue))
  else none

/-- The character of an escape, and how many characters it takes after the backslash. -/
def escape? : List Char → Option (Char × Nat)
  | 'b' :: _ => some ('\x08', 1)
  | 't' :: _ => some ('\t', 1)
  | 'n' :: _ => some ('\n', 1)
  | 'f' :: _ => some ('\x0c', 1)
  | 'r' :: _ => some ('\r', 1)
  | 'e' :: _ => some ('\x1b', 1)
  | '"' :: _ => some ('"', 1)
  | '\\' :: _ => some ('\\', 1)
  | 'x' :: rest => (codePoint? 2 rest).map (·, 3)
  | 'u' :: rest => (codePoint? 4 rest).map (·, 5)
  | 'U' :: rest => (codePoint? 8 rest).map (·, 9)
  | _ => none

/-- A piece of text put before the rest of it. -/
def prepend (c : Char) (result : Option (List Char × List Char)) : Option (List Char × List Char) :=
  result.map fun (text, rest) => (c :: text, rest)

/-- Reads a text with escapes on one line, up to its closing quote. -/
def basic? (cs : List Char) : Option (List Char × List Char) :=
  match cs with
  | [] => none
  | '"' :: rest => some ([], rest)
  | '\\' :: rest =>
    match escape? rest with
    | some (c, taken) => prepend c (basic? (rest.drop taken))
    | none => none
  | c :: rest => if isText c then prepend c (basic? rest) else none
termination_by cs.length
decreasing_by all_goals (simp only [List.length_cons, List.length_drop]; omega)

/-- Reads a text without escapes on one line, up to its closing quote. -/
def literal? : List Char → Option (List Char × List Char)
  | [] => none
  | '\'' :: rest => some ([], rest)
  | c :: rest => if isText c then prepend c (literal? rest) else none

/-- At three quotes: the quotes that still belong to the text, and what follows the
closing three. -/
def closing (quote : Char) (cs : List Char) : List Char × List Char :=
  let extra := min 2 ((cs.takeWhile (· == quote)).length - 3)
  (List.replicate extra quote, cs.drop (3 + extra))

/-- What follows a backslash that ends a line: blanks and line ends are skipped. -/
def continuation? (cs : List Char) : Option (List Char) :=
  (newline? (skipSpace cs)).map skipLines

/-- Reads a text with escapes on several lines. -/
def basicLines? (cs : List Char) : Option (List Char × List Char) :=
  match cs with
  | [] => none
  | '"' :: '"' :: '"' :: rest => some (closing '"' ('"' :: '"' :: '"' :: rest))
  | '\r' :: '\n' :: rest => prepend '\r' (prepend '\n' (basicLines? rest))
  | '\n' :: rest => prepend '\n' (basicLines? rest)
  | '\\' :: rest =>
    match continuation? rest with
    | some after => if after.length ≤ rest.length then basicLines? after else none
    | none =>
      match escape? rest with
      | some (c, taken) => prepend c (basicLines? (rest.drop taken))
      | none => none
  | c :: rest => if isText c then prepend c (basicLines? rest) else none
termination_by cs.length
decreasing_by
  all_goals (simp only [List.length_cons, List.length_drop]; omega)

/-- Reads a text without escapes on several lines. -/
def literalLines? : List Char → Option (List Char × List Char)
  | [] => none
  | '\'' :: '\'' :: '\'' :: rest => some (closing '\'' ('\'' :: '\'' :: '\'' :: rest))
  | '\r' :: '\n' :: rest => prepend '\r' (prepend '\n' (literalLines? rest))
  | '\n' :: rest => prepend '\n' (literalLines? rest)
  | c :: rest => if isText c then prepend c (literalLines? rest) else none

/-- Drops a line end at the front. -/
def dropNewline (cs : List Char) : List Char := (newline? cs).getD cs

/-- Reads a text of one line, quotes included. -/
def quotedKey? : List Char → Option (String × List Char)
  | '"' :: rest => (basic? rest).map fun (text, after) => (String.ofList text, after)
  | '\'' :: rest => (literal? rest).map fun (text, after) => (String.ofList text, after)
  | _ => none

/-- Reads a text of any form, quotes included. -/
def quotation? : List Char → Option (String × List Char)
  | '"' :: '"' :: '"' :: rest =>
    (basicLines? (dropNewline rest)).map fun (text, after) => (String.ofList text, after)
  | '\'' :: '\'' :: '\'' :: rest =>
    (literalLines? (dropNewline rest)).map fun (text, after) => (String.ofList text, after)
  | cs => quotedKey? cs

end ClusterProvision.Toml
