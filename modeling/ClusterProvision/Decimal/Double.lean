/-!
# `ClusterProvision.Decimal.Double`: the double nearest to a decimal

A double is kept as sign, integer significand and binary exponent, so that all
arithmetic on it is exact arithmetic on natural numbers. `Double.nearest` rounds a
decimal to the nearest double, a tie to the even significand; what is too large
becomes an infinity.
-/

set_option autoImplicit false

namespace ClusterProvision.Decimal

/-- A double-precision number. `finite` stands for `± m * 2 ^ q`, where `m < 2 ^ 53` and
`-1074 ≤ q ≤ 971`, and `2 ^ 52 ≤ m` unless `q = -1074`. -/
inductive Double where
  | nan
  | infinite (negative : Bool)
  | finite (negative : Bool) (m : Nat) (q : Int)
  deriving DecidableEq, Repr, Inhabited

namespace Double

/-- The integer nearest to `num / den`, a tie to the even one. -/
def roundEven (num den : Nat) : Nat :=
  let whole := num / den
  let twice := 2 * (num % den)
  if twice < den then whole
  else if den < twice then whole + 1
  else whole + whole % 2

/-- Numerator and denominator of `num / den / 2 ^ q`. -/
def scale (num den : Nat) (q : Int) : Nat × Nat :=
  if 0 ≤ q then (num, den * Nat.pow 2 q.toNat) else (num * Nat.pow 2 (-q).toNat, den)

/-- The double nearest to `± num / den`, for `0 < num` and `0 < den`. -/
def ofRatio (negative : Bool) (num den : Nat) : Double :=
  -- The quotient lies between `2 ^ (k - 1)` and `2 ^ (k + 1)`.
  let k : Int := (Nat.log2 num : Int) - Nat.log2 den
  let low := max (-1074) (k - 53)
  let least := (scale num den low).1 / (scale num den low).2
  let q := if Nat.pow 2 53 ≤ least then low + 1 else low
  let m := roundEven (scale num den q).1 (scale num den q).2
  let (m, q) := if m = Nat.pow 2 53 then (Nat.pow 2 52, q + 1) else (m, q)
  if 971 < q then infinite negative else finite negative m q

/-- The double nearest to `± digits * 10 ^ exponent`. A number of 310 places or more
before the point is an infinity and one with 330 zeros after it is zero, so the powers of
ten stay small whatever the exponent. -/
def nearest (negative : Bool) (digits : Nat) (exponent : Int) : Double :=
  let places : Int := digits.repr.length + exponent
  if digits = 0 || places < -330 then finite negative 0 (-1074)
  else if 310 < places then infinite negative
  else if 0 ≤ exponent then ofRatio negative (digits * Nat.pow 10 exponent.toNat) 1
  else ofRatio negative digits (Nat.pow 10 (-exponent).toNat)

end Double
end ClusterProvision.Decimal
