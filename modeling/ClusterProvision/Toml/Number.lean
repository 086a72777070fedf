import ClusterProvision.Toml.Value

/-!
# `ClusterProvision.Toml.Number`: integers and floats

Underscores may stand between digits. A decimal number has no leading zero and may
have a sign; `0x`, `0o` and `0b` numbers have no sign. A float has a fraction, an
exponent or both, with a digit on each side of the point.
-/

set_option autoImplicit false

namespace ClusterProvision.Toml

/-- A decimal digit. -/
def isDecimal (c : Char) : Bool := '0' ≤ c && c ≤ '9'

/-- The value of a digit of any base up to sixteen. -/
def digitValue (c : Char) : Nat :=
  if isDecimal c then c.toNat - '0'.toNat
  else if 'a' ≤ c && c ≤ 'f' then c.toNat - 'a'.toNat + 10
  else if 'A' ≤ c && c ≤ 'F' then c.toNat - 'A'.toNat + 10
  else 16

/-- At least one digit of the base, with underscores only between two digits. -/
def digits? (base : Nat) : List Char → Option (List Nat)
  | [] => none
  | [c] => if digitValue c < base then some [digitValue c] else none
  | c :: '_' :: rest =>
    if digitValue c < base then (digits? base rest).map (digitValue c :: ·) else none
  | c :: rest =>
    if digitValue c < base then (digits? base rest).map (digitValue c :: ·) else none

/-- The number that digits of a base spell. -/
def ofDigits (base : Nat) (digits : List Nat) : Nat := digits.foldl (fun n d => n * base + d) 0

/-- Decimal digits without a leading zero. -/
def wholeDigits? (cs : List Char) : Option (List Nat) :=
  match digits? 10 cs with
  | some (0 :: _ :: _) => none
  | result => result

/-- Takes a sign from the front: whether it is a minus, and the rest. -/
def splitSign : List Char → Bool × List Char
  | '-' :: rest => (true, rest)
  | '+' :: rest => (false, rest)
  | cs => (false, cs)

/-- Reads an integer. -/
def integer? : List Char → Option Int
  | '0' :: 'x' :: rest => (digits? 16 rest).map fun ds => ofDigits 16 ds
  | '0' :: 'o' :: rest => (digits? 8 rest).map fun ds => ofDigits 8 ds
  | '0' :: 'b' :: rest => (digits? 2 rest).map fun ds => ofDigits 2 ds
  | cs =>
    let (negative, body) := splitSign cs
    (wholeDigits? body).map fun ds =>
      if negative then -(ofDigits 10 ds : Int) else ofDigits 10 ds

/-- Splits at the first character that satisfies a test, which belongs to neither part. -/
def splitAtFirst (test : Char → Bool) (cs : List Char) : List Char × Option (List Char) :=
  (cs.takeWhile (!test ·), (cs.dropWhile (!test ·)).tail?)

/-- Reads the exponent of a float. -/
def exponent? (cs : List Char) : Option Int :=
  let (negative, body) := splitSign cs
  (digits? 10 body).map fun ds => if negative then -(ofDigits 10 ds : Int) else ofDigits 10 ds

/-- Reads a float. -/
def float? (cs : List Char) : Option FloatLiteral :=
  let (negative, body) := splitSign cs
  if body = ['i', 'n', 'f'] then some (.infinity negative)
  else if body = ['n', 'a', 'n'] then some .nan
  else
    let (mantissa, power) := splitAtFirst (fun c => c == 'e' || c == 'E') body
    let (whole, fraction) := splitAtFirst (· == '.') mantissa
    match wholeDigits? whole, fraction.map (digits? 10), power.map exponent? with
    | some ws, none, some (some e) => some (.decimal negative (ofDigits 10 ws) e)
    | some ws, some (some fs), none =>
      some (.decimal negative (ofDigits 10 (ws ++ fs)) (-(fs.length : Int)))
    | some ws, some (some fs), some (some e) =>
      some (.decimal negative (ofDigits 10 (ws ++ fs)) (e - fs.length))
    | _, _, _ => none

end ClusterProvision.Toml
