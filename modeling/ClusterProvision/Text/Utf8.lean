/-!
# `ClusterProvision.Text.Utf8`: bytes that may be text

File contents and environment values arrive as bytes. `pieces` cuts them into
characters and into runs that belong to none: such a run is the longest front of a
character's encoding that is there, or a single byte that starts no encoding.
`ofUtf8?` is the text of bytes without such runs. `shown` is for messages: each run
becomes one replacement character.
-/

set_option autoImplicit false

namespace ClusterProvision.Text

/-- A part of a byte sequence: a character, or bytes that belong to none. -/
inductive Piece where
  | char (c : Char)
  | stray (bytes : List UInt8)
  deriving DecidableEq, Repr

/-- The ranges in which the bytes after a first byte lie. Overlong forms, surrogates and
code points above U+10FFFF are ruled out by the range of the second byte. -/
def following (first : UInt8) : Option (List (UInt8 × UInt8)) :=
  let any : UInt8 × UInt8 := (0x80, 0xBF)
  if first < 0x80 then some []
  else if 0xC2 ≤ first && first ≤ 0xDF then some [any]
  else if first == 0xE0 then some [(0xA0, 0xBF), any]
  else if first == 0xED then some [(0x80, 0x9F), any]
  else if 0xE1 ≤ first && first ≤ 0xEF then some [any, any]
  else if first == 0xF0 then some [(0x90, 0xBF), any, any]
  else if first == 0xF4 then some [(0x80, 0x8F), any, any]
  else if 0xF1 ≤ first && first ≤ 0xF3 then some [any, any, any]
  else none

/-- The longest front of `bytes` whose bytes lie in the given ranges, one each. -/
def fitting : List (UInt8 × UInt8) → List UInt8 → List UInt8
  | (low, high) :: ranges, b :: bytes =>
    if low ≤ b && b ≤ high then b :: fitting ranges bytes else []
  | _, _ => []

/-- The character that a first byte and the bytes after it encode. -/
def assemble (first : UInt8) (rest : List UInt8) : Char :=
  let top := if rest.isEmpty then first.toNat else first.toNat % Nat.pow 2 (6 - rest.length)
  Char.ofNat (rest.foldl (fun n b => n * 64 + b.toNat % 64) top)

/-- The characters of a byte sequence, and what lies between them. -/
def pieces : List UInt8 → List Piece
  | [] => []
  | first :: bytes =>
    match following first with
    | none => .stray [first] :: pieces bytes
    | some ranges =>
      let rest := fitting ranges bytes
      let piece :=
        if rest.length = ranges.length then .char (assemble first rest)
        else .stray (first :: rest)
      piece :: pieces (bytes.drop rest.length)
termination_by bytes => bytes.length
decreasing_by all_goals (simp only [List.length_cons, List.length_drop]; omega)

/-- The text that bytes spell, if all of them belong to characters. -/
def ofUtf8? (bytes : List UInt8) : Option String :=
  let chars := (pieces bytes).mapM fun piece : Piece =>
    match piece with
    | .char c => some c
    | .stray _ => none
  chars.map String.ofList

/-- Bytes as a message shows them: a replacement character for each stray run. -/
def shown (bytes : List UInt8) : String :=
  String.ofList <| (pieces bytes).map fun piece =>
    match piece with
    | .char c => c
    | .stray _ => '\ufffd'

/-- The bytes of a text. -/
def toUtf8 (s : String) : List UInt8 := s.toUTF8.toList

end ClusterProvision.Text
