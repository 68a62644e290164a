/-!
# Whole numbers in decimal

The readers here take all of a text: at least one digit, any number of zeros in
front, and a sign where one is allowed.
-/

namespace Vigil.Decimal

/-- The value of digits, of which there is at least one. -/
def whole? (s : List Char) : Option Nat :=
  if s.isEmpty then none
  else s.foldlM (fun n c =>
    if '0' ≤ c ∧ c ≤ '9' then some (n * 10 + (c.toNat - '0'.toNat)) else none) 0

/-- A number below a bound. A plus sign may stand in front of it. -/
def unsigned? (bound : Nat) (s : List Char) : Option Nat := do
  let n ← match s with
    | '+' :: digits => whole? digits
    | digits => whole? digits
  if n < bound then some n else none

example : unsigned? 65536 ['+', '0', '8', '0'] = some 80 := by decide

end Vigil.Decimal
