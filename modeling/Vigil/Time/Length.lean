import Vigil.Time.Basic

/-!
# Lengths of time as texts

A duration is shown in the greatest unit that goes into it, with as many decimal
places as it needs.
-/

namespace Vigil.Duration

/-- The decimal places of a part of a unit of `10 ^ places`, without the zeros at
their end, after a point if there are any. -/
def fractionText (places part : Nat) : String :=
  let digits := Nat.toDigits 10 part
  let padded := List.replicate (places - digits.length) '0' ++ digits
  let kept := (padded.reverse.dropWhile (· == '0')).reverse
  if kept.isEmpty then "" else "." ++ String.ofList kept

/-- An amount in a unit of `10 ^ places` nanoseconds. -/
def inUnit (nanos places : Nat) (unit : String) : String :=
  toString (nanos / Nat.pow 10 places) ++ fractionText places (nanos % Nat.pow 10 places) ++ unit

/-- The duration in seconds, or in a smaller unit if it is less than one. -/
def text (d : Duration) : String :=
  if 1000000000 ≤ d.nanos then inUnit d.nanos 9 "s"
  else if 1000000 ≤ d.nanos then inUnit d.nanos 6 "ms"
  else if 1000 ≤ d.nanos then inUnit d.nanos 3 "µs"
  else inUnit d.nanos 0 "ns"

end Vigil.Duration
