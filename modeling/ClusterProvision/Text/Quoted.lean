import ClusterProvision.Text.Printable
import ClusterProvision.Text.Utf8

/-!
# `ClusterProvision.Text.Quoted`: text in quotes, for messages

A quoted text stands between double quotes. Tab, line feed, carriage return, NUL, the
backslash and the double quote have escapes of two characters; every other character
that is not printable is written by its code point, as in `\u{200b}`.

Bytes are quoted in the same way, with two differences: the single quote is escaped
too, and a byte that belongs to no character is written as in `\xFF`.
-/

set_option autoImplicit false

namespace ClusterProvision.Text

/-- A number in hexadecimal, with small letters and no leading zeros. -/
def hex (n : Nat) : List Char := Nat.toDigits 16 n

/-- A byte in hexadecimal: two digits, with capital letters. -/
def byteHex (b : UInt8) : List Char :=
  let digits := (hex b.toNat).map Char.toUpper
  if digits.length < 2 then '0' :: digits else digits

/-- A character as it appears between quotes. -/
def escaped (c : Char) : List Char :=
  if c = '\t' then ['\\', 't']
  else if c = '\n' then ['\\', 'n']
  else if c = '\r' then ['\\', 'r']
  else if c = '\x00' then ['\\', '0']
  else if c = '\\' then ['\\', '\\']
  else if c = '"' then ['\\', '"']
  else if isPrintable c then [c]
  else ['\\', 'u', '\x7b'] ++ hex c.toNat ++ ['\x7d']

/-- A text between double quotes. -/
def quoted (s : String) : String :=
  String.ofList ('"' :: s.toList.flatMap escaped ++ ['"'])

/-- Bytes between double quotes. -/
def quotedBytes (bytes : List UInt8) : String :=
  let inner := (pieces bytes).flatMap fun
    | .char c => if c = '\'' then ['\\', '\''] else escaped c
    | .stray strays => strays.flatMap fun b => ['\\', 'x'] ++ byteHex b
  String.ofList ('"' :: inner ++ ['"'])

end ClusterProvision.Text
