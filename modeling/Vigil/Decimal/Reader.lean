import Vigil.Decimal.Basic

/-!
# Reading a double

A double is written as an optional sign and either a decimal number, with or
without a point and an exponent, or one of the words `inf`, `infinity` and
`nan` in letters of any case. Digits must stand on at least one side of the
point, and at least one digit must follow the mark of the exponent.
-/

namespace Vigil.Decimal

/-- Splits off the sign at the start: whether it is a minus, and the rest. -/
def takeSign : List Char → Bool × List Char
  | '-' :: rest => (true, rest)
  | '+' :: rest => (false, rest)
  | rest => (false, rest)

/-- Splits off the digits at the start. -/
def takeDigits (s : List Char) : List Char × List Char :=
  (s.takeWhile Char.isDigit, s.dropWhile Char.isDigit)

theorem takeDigits_append (s : List Char) : (takeDigits s).1 ++ (takeDigits s).2 = s :=
  List.takeWhile_append_dropWhile

/-- The exponent that ends a number: nothing, or its mark, a sign and digits. -/
def readExponent? : List Char → Option Int
  | [] => some 0
  | c :: rest =>
    if c = 'e' || c = 'E' then
      let (negative, digits) := takeSign rest
      if digits.isEmpty || !digits.all Char.isDigit then none
      else
        let n : Int := ofDigits digits
        some (if negative then -n else n)
    else none

/-- A decimal number without a sign, as the whole of the text. -/
def readUnsigned? (s : List Char) : Option Decimal :=
  let (whole, rest) := takeDigits s
  let (fraction, rest) := match rest with
    | '.' :: rest => takeDigits rest
    | rest => ([], rest)
  if whole.isEmpty && fraction.isEmpty then none
  else (readExponent? rest).map fun e =>
    ⟨false, ofDigits (whole ++ fraction), e - fraction.length⟩

/-- The words for values that are no decimal numbers. -/
def readWord? (s : List Char) : Option Float :=
  match String.ofList (s.map Char.toLower) with
  | "inf" => some (1.0 / 0.0)
  | "infinity" => some (1.0 / 0.0)
  | "nan" => some (0.0 / 0.0)
  | _ => none

/-- The double that a text writes, if it writes one. -/
def readFloat? (s : List Char) : Option Float :=
  let (negative, rest) := takeSign s
  match readUnsigned? rest with
  | some d => some { d with negative }.toFloat
  | none => (readWord? rest).map fun x => if negative then -x else x

end Vigil.Decimal
