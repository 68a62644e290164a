import Vigil.Decimal.Shortest

/-!
# Layouts of numbers

A numeral is a number as it is written. A layout says which of two notations a
decimal number gets, positional or with an exponent, and whether a whole number
keeps its point. Two layouts are used: `plain`, for numbers in messages, and
`json`, for numbers in JSON documents.
-/

namespace Vigil.Decimal

/-- A number as it is written: its sign, the digits before the point, the digits
after it, and the exponent. There is a point when digits follow it. -/
structure Numeral where
  negative : Bool
  whole : List Char
  fraction : List Char
  exponent : Option Int
deriving Repr, DecidableEq

/-- An exponent always has a sign. -/
def Numeral.exponentText : Option Int → List Char
  | none => []
  | some e => 'e' :: (if e < 0 then '-' else '+') :: Nat.toDigits 10 e.natAbs

def Numeral.text (n : Numeral) : List Char :=
  (if n.negative then ['-'] else []) ++ n.whole ++
    (if n.fraction.isEmpty then [] else '.' :: n.fraction) ++ exponentText n.exponent

/-- A whole number as a numeral. -/
def Numeral.ofInt (i : Int) : Numeral := ⟨i < 0, Nat.toDigits 10 i.natAbs, [], none⟩

/-- The choices that fix the text of a finite number. A number whose first
digit stands at ten to the power `e` is positional if `e` lies between
`smallest` and `largest`; `none` is no bound. -/
structure Layout where
  smallest : Option Int
  largest : Option Int
  keepsPoint : Bool

/-- Numbers in messages are positional whatever their size, and a whole number
has no point. -/
def Layout.plain : Layout := ⟨none, none, false⟩

/-- Numbers in JSON are positional from 0.00001 up to, but without,
10000000000000000, and a whole number keeps a zero after the point. -/
def Layout.json : Layout := ⟨some (-5), some 15, true⟩

namespace Layout

def positional (layout : Layout) (e : Int) : Bool :=
  layout.smallest.all (· ≤ e) && layout.largest.all (e ≤ ·)

/-- The digits of `± units · 10 ^ exponent` around a point. -/
def positionalNumeral (keepsPoint negative : Bool) (digits : List Char) (exponent : Int) :
    Numeral :=
  match exponent with
  | .ofNat e =>
    ⟨negative, digits ++ List.replicate e '0', if keepsPoint then ['0'] else [], none⟩
  | .negSucc e =>
    let places := e + 1
    if places < digits.length then
      ⟨negative, digits.take (digits.length - places), digits.drop (digits.length - places), none⟩
    else ⟨negative, ['0'], List.replicate (places - digits.length) '0' ++ digits, none⟩

/-- The numeral of a decimal number. With an exponent it has one digit before
the point. -/
def numeral (layout : Layout) (d : Decimal) : Numeral :=
  let digits := Nat.toDigits 10 d.units
  let e := d.exponent + digits.length - 1
  if layout.positional e then positionalNumeral layout.keepsPoint d.negative digits d.exponent
  else ⟨d.negative, digits.take 1, digits.drop 1, some e⟩

end Layout

/-- The text of a number in a message. -/
def floatText (x : Float) : String :=
  if x.isNaN then "NaN"
  else if x.isInf then (if x < 0 then "-inf" else "inf")
  else String.ofList (Layout.plain.numeral (shortest x)).text

end Vigil.Decimal
