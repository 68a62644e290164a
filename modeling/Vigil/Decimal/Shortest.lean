import Vigil.Decimal.Basic

/-!
# Shortest decimal digits of a double

A finite double is `mantissa · 2 ^ exponent`. The reals that round to it form
an interval around it, whose ends belong to it exactly when the mantissa is
even. `shortest` takes the first of the decimal grids with 1, 2, …, 17 digits
that has a point inside the interval. Only the two grid points next to the
value need a look on each grid; of two that fit, the nearer is taken, and of
two equally near the even one.
-/

namespace Vigil.Decimal

/-- A positive finite double as `mantissa · 2 ^ exponent`. `lowerIsHalf` says
that the next smaller double is only half as far away as the next greater one,
which is so at a power of two. -/
structure Binary where
  mantissa : Nat
  exponent : Int
  lowerIsHalf : Bool
deriving Repr, DecidableEq

/-- The parts of a finite double without its sign. -/
def Binary.ofFloat (x : Float) : Binary :=
  let bits : Nat := x.toBits.toNat % (1 <<< 63)
  let biased : Nat := bits / (1 <<< 52)
  let fraction : Nat := bits % (1 <<< 52)
  if biased = 0 then ⟨fraction, -1074, false⟩
  else ⟨fraction + (1 <<< 52), (biased : Int) - 1075, fraction = 0 && biased > 1⟩

/-- A nonnegative rational, as a quotient of natural numbers. -/
structure Ratio where
  num : Nat
  den : Nat

namespace Ratio

def le (a b : Ratio) : Bool := a.num * b.den ≤ b.num * a.den

def lt (a b : Ratio) : Bool := a.num * b.den < b.num * a.den

/-- `n · base ^ e` as a quotient. -/
def scaled (n base : Nat) (e : Int) : Ratio :=
  match e with
  | .ofNat e => ⟨n * Nat.pow base e, 1⟩
  | .negSucc e => ⟨n, Nat.pow base (e + 1)⟩

end Ratio

namespace Binary

def value (b : Binary) : Ratio := .scaled (4 * b.mantissa) 2 (b.exponent - 2)

/-- The lower end of the interval of reals that round to the value. -/
def low (b : Binary) : Ratio :=
  .scaled (4 * b.mantissa - if b.lowerIsHalf then 1 else 2) 2 (b.exponent - 2)

/-- The upper end of the interval of reals that round to the value. -/
def high (b : Binary) : Ratio := .scaled (4 * b.mantissa + 2) 2 (b.exponent - 2)

/-- Whether a real rounds to the value. -/
def contains (b : Binary) (r : Ratio) : Bool :=
  if b.mantissa % 2 = 0 then b.low.le r && r.le b.high else b.low.lt r && r.lt b.high

/-- The greatest power of ten that is not above the value, found upwards from
`scale` within `fuel` steps. -/
def scaleFrom (b : Binary) : Nat → Int → Int
  | 0, scale => scale
  | fuel + 1, scale =>
    if (Ratio.scaled 1 10 (scale + 1)).le b.value then scaleFrom b fuel (scale + 1) else scale

/-- The position of the first decimal digit: the value lies between ten to this
power and ten to the next. The start is a lower bound from the binary size, a
decimal digit being worth more than three binary ones. -/
def scale (b : Binary) : Int :=
  let size := b.exponent + Nat.log2 b.mantissa
  scaleFrom b 5 ((size * 1233).fdiv 4096 - 1)

/-- The grid point with `count` digits that rounds to the value, if there is one. -/
def onGrid? (b : Binary) (count : Nat) : Option Decimal :=
  let step := b.scale + 1 - count
  let v := b.value
  let quotient := match step with
    | .ofNat e => (⟨v.num, v.den * Nat.pow 10 e⟩ : Ratio)
    | .negSucc e => ⟨v.num * Nat.pow 10 (e + 1), v.den⟩
  let below := quotient.num / quotient.den
  let rest := quotient.num % quotient.den
  let above := if rest = 0 then below else below + 1
  let fits (n : Nat) := n ≠ 0 && b.contains (.scaled n 10 step)
  let nearerBelow := 2 * rest < quotient.den || (2 * rest = quotient.den && below % 2 = 0)
  if fits below && (nearerBelow || !fits above) then some ⟨false, below, step⟩
  else if fits above then some ⟨false, above, step⟩
  else none

/-- The first grid with a fitting point, from `count` digits on. -/
def firstGrid (b : Binary) : Nat → Nat → Decimal
  | 0, count => (b.onGrid? count).getD ⟨false, b.mantissa, 0⟩
  | fuel + 1, count =>
    match b.onGrid? count with
    | some d => d
    | none => firstGrid b fuel (count + 1)

end Binary

/-- Takes the zeros off the end of the units of a number. -/
def stripZeros : Nat → Decimal → Decimal
  | 0, d => d
  | fuel + 1, d =>
    if d.units ≠ 0 ∧ d.units % 10 = 0 then
      stripZeros fuel { d with units := d.units / 10, exponent := d.exponent + 1 }
    else d

/-- The fewest decimal digits that read back as a finite double; zero has the
single digit zero. -/
def shortest (x : Float) : Decimal :=
  let negative := x.toBits.toNat / (1 <<< 63) = 1
  let b := Binary.ofFloat x
  if b.mantissa = 0 then ⟨negative, 0, 0⟩
  else { stripZeros 20 (b.firstGrid 16 1) with negative }

end Vigil.Decimal
