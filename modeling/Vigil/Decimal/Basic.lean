/-!
# Decimal numbers

A decimal number is a sign, a natural number of units and a power of ten. Its
`toFloat` is the nearest binary double. Powers of ten far outside the range of
doubles are cut off first, so that the work done does not grow with the
exponent.
-/

namespace Vigil

/-- The number `± units · 10 ^ exponent`. -/
structure Decimal where
  negative : Bool
  units : Nat
  exponent : Int
deriving Repr, DecidableEq

namespace Decimal

/-- The number of decimal digits of a natural number; zero has one. -/
def digitCount (n : Nat) : Nat := (Nat.toDigits 10 n).length

/-- Every decimal number with more than this many digits before the point is
above all doubles. -/
def largestScale : Int := 310

/-- Every decimal number below ten to this power is nearest to zero. -/
def smallestScale : Int := -330

/-- The size of a decimal number as the nearest double. -/
def magnitude (d : Decimal) : Float :=
  if d.units = 0 then 0.0
  else
    let scale := d.exponent + digitCount d.units
    if scale > largestScale then 1.0 / 0.0
    else if scale < smallestScale then 0.0
    else
      match d.exponent with
      | .ofNat e => Float.ofScientific d.units false e
      | .negSucc e => Float.ofScientific d.units true (e + 1)

/-- The nearest double, a tie going to the even one. The sign is kept on zero. -/
def toFloat (d : Decimal) : Float :=
  if d.negative then -d.magnitude else d.magnitude

/-- The value of a run of decimal digits, the first one most significant. -/
def ofDigits (digits : List Char) : Nat :=
  digits.foldl (fun n c => n * 10 + (c.toNat - '0'.toNat)) 0

@[simp] theorem ofDigits_nil : ofDigits [] = 0 := rfl

theorem ofDigits_append_singleton (digits : List Char) (c : Char) :
    ofDigits (digits ++ [c]) = ofDigits digits * 10 + (c.toNat - '0'.toNat) := by
  simp [ofDigits, List.foldl_append]

end Decimal

end Vigil
