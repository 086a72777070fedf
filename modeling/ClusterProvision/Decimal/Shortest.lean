import ClusterProvision.Decimal.Double

/-!
# `ClusterProvision.Decimal.Shortest`: the shortest decimal of a double

A double stands for every real that rounds to it. Its text is the shortest decimal
among those: the one on the coarsest grid `10 ^ e` that has a point in that interval.
If two neighbours of the double on this grid lie in the interval, the nearer one is
taken, and the larger one if both are equally near.

The text is positional at every magnitude and always has a point: `1000.0`, `0.00001`.
-/

set_option autoImplicit false

namespace ClusterProvision.Decimal

/-- The reals that round to `m * 2 ^ q`, and that number itself, all times `unit`. The
ends belong to the interval exactly when `closed`. -/
structure Rounding where
  value : Nat
  low : Nat
  high : Nat
  unit : Nat
  closed : Bool
  deriving Repr

/-- The interval of `m * 2 ^ q`. Below a power of two the doubles lie twice as close. -/
def Rounding.of (m : Nat) (q : Int) : Rounding :=
  let shift := (2 - q).toNat
  let bits := (q + shift).toNat
  let value := m * Nat.pow 2 bits
  let half := Nat.pow 2 (bits - 1)
  let below := if m = Nat.pow 2 52 && -1074 < q then Nat.pow 2 (bits - 2) else half
  { value, low := value - below, high := value + half, unit := Nat.pow 2 shift
    closed := m % 2 == 0 }

/-- Whether `d * 10 ^ e` lies in the interval. -/
def Rounding.holds (r : Rounding) (d : Nat) (e : Int) : Bool :=
  let point := d * Nat.pow 10 e.toNat * r.unit
  let up := Nat.pow 10 (-e).toNat
  if r.closed then r.low * up ≤ point && point ≤ r.high * up
  else r.low * up < point && point < r.high * up

/-- The point of the grid `10 ^ e` in the interval that is nearest to the value. -/
def Rounding.point? (r : Rounding) (e : Int) : Option Nat :=
  let step := Nat.pow 10 e.toNat * r.unit
  let value := r.value * Nat.pow 10 (-e).toNat
  let d := value / step
  match r.holds d e, r.holds (d + 1) e with
  | true, true => some (if 2 * (value % step) < step then d else d + 1)
  | true, false => some d
  | false, true => some (d + 1)
  | false, false => none

/-- The first hit on the grids `10 ^ e`, `10 ^ (e - 1)`, …, of which `fuel` are tried. -/
def Rounding.search (r : Rounding) : Nat → Int → Nat × Int
  | 0, e => (0, e)
  | fuel + 1, e =>
    match r.point? e with
    | some d => (d, e)
    | none => r.search fuel (e - 1)

/-- Digits and exponent of the shortest decimal of `m * 2 ^ q`, for `0 < m`. The largest
double is below `10 ^ 309`; the finest grid that can be needed is `10 ^ -324`. -/
def shortest (m : Nat) (q : Int) : Nat × Int :=
  (Rounding.of m q).search 640 309

/-- `digits * 10 ^ exponent` in positional notation, with at least one digit on each side
of the point. -/
def positional (digits : Nat) (exponent : Int) : String :=
  if 0 ≤ exponent then
    digits.repr ++ String.ofList (List.replicate exponent.toNat '0') ++ ".0"
  else
    let places := (-exponent).toNat
    let written := digits.repr.toList
    let padded := List.replicate (places + 1 - written.length) '0' ++ written
    let whole := padded.length - places
    String.ofList (padded.take whole ++ '.' :: padded.drop whole)

/-- The text of a double. -/
def Double.text : Double → String
  | .nan => "NaN"
  | .infinite negative => if negative then "-inf" else "inf"
  | .finite negative m q =>
    let sign := if negative then "-" else ""
    if m = 0 then sign ++ "0.0"
    else
      let (digits, exponent) := shortest m q
      sign ++ positional digits exponent

end ClusterProvision.Decimal
