import Vigil.Decimal.Layout

/-!
# The values of numerals

`Numeral.toInt?` reads a numeral as a whole number and `Numeral.toFloat?` as a
double. The double is the quick one: as many digits as fit into 64 bits are kept
exactly, and then one multiplication or division by a power of ten is done in
double precision. A number too great for a double has no value.
-/

namespace Vigil.Decimal

/-- The greatest significand that is kept. -/
def largestSignificand : Nat := UInt64.size - 1

/-- Appends digits to a number as long as it fits, and gives the rest. -/
def appendFitting (n : Nat) : List Char → Nat × List Char
  | [] => (n, [])
  | c :: rest =>
    let next := n * 10 + (c.toNat - '0'.toNat)
    if next ≤ largestSignificand then appendFitting next rest else (n, c :: rest)

/-- Moves a nonnegative double by a power of ten, in steps of 308 places. It
fails if the result is too great, and stops at zero. -/
def shift? : Nat → Float → Int → Option Float
  | 0, _, _ => some 0.0
  | fuel + 1, x, e =>
    if e.natAbs ≤ 308 then
      if 0 ≤ e then
        let y := x * Float.ofScientific 1 false e.natAbs
        if y.isInf then none else some y
      else some (x / Float.ofScientific 1 false e.natAbs)
    else if x == 0.0 then some x
    else if 0 ≤ e then none
    else shift? fuel (x / 1e308) (e + 308)

namespace Numeral

/-- Whether a numeral has neither point nor exponent. -/
def isWhole (n : Numeral) : Bool := n.fraction.isEmpty && n.exponent.isNone

/-- The significand that is kept of a numeral, and its power of ten. -/
def significand (n : Numeral) : Nat × Int :=
  let (m, dropped) := appendFitting 0 n.whole
  let (m, rest) := appendFitting m n.fraction
  (m, (n.exponent.getD 0) + dropped.length - (n.fraction.length - rest.length : Nat))

/-- The size of a numeral as a double, if it is not too great. -/
def magnitude? (n : Numeral) : Option Float :=
  let (m, e) := n.significand
  shift? (e.natAbs / 308 + 1) (UInt64.ofNat m).toFloat e

/-- The double that a numeral stands for. Minus zero keeps its sign. -/
def toFloat? (n : Numeral) : Option Float :=
  n.magnitude?.map fun x => if n.negative then -x else x

/-- The whole number that a numeral stands for. Minus zero and whole numbers
outside of 64 bits count as doubles, and so are not whole. -/
def toInt? (n : Numeral) : Option Int :=
  if n.isWhole then
    let m := ofDigits n.whole
    if n.negative then
      if 0 < m ∧ Int64.minValue.toInt ≤ -(m : Int) then some (-(m : Int)) else none
    else if m < UInt64.size then some m else none
  else none

/-- The natural number below `bound` that a numeral stands for. -/
def toNat? (n : Numeral) (bound : Nat) : Option Nat :=
  match n.toInt? with
  | some (.ofNat m) => if m < bound then some m else none
  | _ => none

end Numeral

end Vigil.Decimal
