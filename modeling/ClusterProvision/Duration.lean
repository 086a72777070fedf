/-!
# `ClusterProvision.Duration`: spans of time and their text

A duration is written in the largest of the units s, ms, µs and ns that gives a
whole part other than zero, with exactly the fractional digits it needs: `30s`,
`1.5s`, `250ms`, `1.001µs`, and `0ns` for no time at all.
-/

set_option autoImplicit false

namespace ClusterProvision

/-- A span of time in nanoseconds. -/
structure Duration where
  nanos : Nat
  deriving DecidableEq, Repr, Inhabited

namespace Duration

/-- A span of whole milliseconds. -/
def ofMillis (ms : Nat) : Duration := ⟨ms * 1000000⟩

/-- The digits after the point: `part` out of `10 ^ places`, without the zeros at the end. -/
def fraction (part places : Nat) : String :=
  let digits := (part + Nat.pow 10 places).repr.toList.drop 1
  let kept := (digits.reverse.dropWhile (· == '0')).reverse
  if kept.isEmpty then "" else "." ++ String.ofList kept

/-- `nanos` in a unit of `10 ^ places` nanoseconds. -/
def inUnit (nanos places : Nat) (unit : String) : String :=
  (nanos / Nat.pow 10 places).repr ++ fraction (nanos % Nat.pow 10 places) places ++ unit

/-- The text of a duration. -/
def text (d : Duration) : String :=
  if 1000000000 ≤ d.nanos then inUnit d.nanos 9 "s"
  else if 1000000 ≤ d.nanos then inUnit d.nanos 6 "ms"
  else if 1000 ≤ d.nanos then inUnit d.nanos 3 "µs"
  else inUnit d.nanos 0 "ns"

end Duration
end ClusterProvision
