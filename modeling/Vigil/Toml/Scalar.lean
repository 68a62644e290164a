import Vigil.Decimal.Reader
import Vigil.Time.Calendar
import Vigil.Toml.Basic

/-!
# Words in TOML

A value that is no text, array or table is one word: a number, a truth value, a
date, a time, or a date and a time with a letter or a blank between them.
Underscores may stand between the digits of numbers.
-/

namespace Vigil.Toml

def isDigit (c : Char) : Bool := '0' ≤ c && c ≤ '9'

/-- The value of a digit in a base. -/
def digit? (base : Nat) (c : Char) : Option Nat :=
  let d? :=
    if isDigit c then some (c.toNat - '0'.toNat)
    else if 'a' ≤ c ∧ c ≤ 'f' then some (c.toNat - 'a'.toNat + 10)
    else if 'A' ≤ c ∧ c ≤ 'F' then some (c.toNat - 'A'.toNat + 10)
    else none
  d?.bind fun d => if d < base then some d else none

/-- The value of digits with single underscores between them. -/
def digits? (base : Nat) (n : Nat) : List Char → Option Nat
  | [] => none
  | [c] => (digit? base c).map (n * base + ·)
  | c :: '_' :: rest => (digit? base c).bind fun d => digits? base (n * base + d) rest
  | c :: rest => (digit? base c).bind fun d => digits? base (n * base + d) rest

/-- The value of a decimal number without needless zeros in front. -/
def whole? : List Char → Option Nat
  | '0' :: _ :: _ => none
  | s => digits? 10 0 s

/-- A sign, and what follows it. -/
def cutSign : List Char → Bool × List Char
  | '-' :: rest => (true, rest)
  | '+' :: rest => (false, rest)
  | s => (false, s)

/-- The whole number of 64 bits that a word writes. -/
def integer64? (s : List Char) : Option Int :=
  let value? : Option Int := match s with
    | '0' :: 'x' :: rest => (digits? 16 0 rest).map Int.ofNat
    | '0' :: 'o' :: rest => (digits? 8 0 rest).map Int.ofNat
    | '0' :: 'b' :: rest => (digits? 2 0 rest).map Int.ofNat
    | s =>
      let (negative, rest) := cutSign s
      (whole? rest).map fun n => if negative then -(n : Int) else n
  value?.bind fun i => if Int64.minValue.toInt ≤ i ∧ i ≤ Int64.maxValue.toInt then some i else none

/-- Whether a text is empty or an exponent. -/
def isExponent : List Char → Bool
  | [] => true
  | c :: rest => (c == 'e' || c == 'E') && (digits? 10 0 (cutSign rest).2).isSome

/-- The floating-point number that a word writes; the ones too great are refused. -/
def float? (s : List Char) : Option Float :=
  let inMantissa (c : Char) : Bool := isDigit c || c == '_'
  let (_, unsigned) := cutSign s
  let front := unsigned.takeWhile inMantissa
  let rest := unsigned.dropWhile inMantissa
  let isWell := (whole? front).isSome && match rest with
    | '.' :: rest =>
      (digits? 10 0 (rest.takeWhile inMantissa)).isSome && isExponent (rest.dropWhile inMantissa)
    | rest => !rest.isEmpty && isExponent rest
  if unsigned = ['i', 'n', 'f'] ∨ unsigned = ['n', 'a', 'n'] then Decimal.readFloat? s
  else if isWell then
    (Decimal.readFloat? (s.filter (· != '_'))).bind fun x =>
      if x.isInf ∧ 0.0 < x then none else some x
  else none

/-- The number that two digits write, if it is not above a bound. -/
def twoDigits? (bound : Nat) (a b : Char) : Option Nat :=
  (digits? 10 0 [a, b]).bind fun n => if n ≤ bound then some n else none

/-- Whether digits are the year, the month and the day of a date. -/
def isDate (s : List Char) : Bool :=
  match s with
  | [y1, y2, y3, y4, '-', m1, m2, '-', d1, d2] =>
    match twoDigits? 99 y1 y2, twoDigits? 99 y3 y4, twoDigits? 12 m1 m2, twoDigits? 31 d1 d2 with
    | some century, some year, some month, some day =>
      1 ≤ month && 1 ≤ day && day ≤ Calendar.daysInMonth (century * 100 + year) month
    | _, _, _, _ => false
  | _ => false

/-- What follows a time of the day at the front of a text. -/
def afterTime? : List Char → Option (List Char)
  | h1 :: h2 :: ':' :: m1 :: m2 :: ':' :: s1 :: s2 :: rest => do
    discard (twoDigits? 23 h1 h2)
    discard (twoDigits? 59 m1 m2)
    discard (twoDigits? 60 s1 s2)
    match rest with
    | '.' :: rest =>
      if (rest.head?.map isDigit) = some true then some (rest.dropWhile isDigit) else none
    | rest => some rest
  | _ => none

/-- Whether a text is the distance of a local time, or nothing. -/
def isOffset : List Char → Bool
  | [] => true
  | ['Z'] => true
  | ['z'] => true
  | [sign, h1, h2, ':', m1, m2] =>
    (sign == '+' || sign == '-') && (twoDigits? 23 h1 h2).isSome && (twoDigits? 59 m1 m2).isSome
  | _ => false

/-- Whether a word is a date, a time, or both with a letter between them. -/
def isMoment (s : List Char) : Bool :=
  let date := s.take 10
  if isDate date then
    match s.drop 10 with
    | [] => true
    | c :: rest =>
      (c == 'T' || c == 't' || c == ' ') && ((afterTime? rest).map isOffset) == some true
  else afterTime? s == some []

/-- The value that a word is. -/
def ofWord? (s : List Char) : Option Toml :=
  if s = ['t', 'r', 'u', 'e'] then some (.bool true)
  else if s = ['f', 'a', 'l', 's', 'e'] then some (.bool false)
  else if isMoment s then some (.moment (String.ofList s))
  else match integer64? s with
    | some i => some (.integer i)
    | none => (float? s).map .float

def isWordChar (c : Char) : Bool :=
  isDigit c || ('a' ≤ c && c ≤ 'z') || ('A' ≤ c && c ≤ 'Z') ||
    c == '_' || c == '+' || c == '-' || c == '.' || c == ':'

/-- Reads a word. A date and a time after one blank are one word. -/
def readWord? (s : List Char) : Option (Toml × List Char) :=
  let word := s.takeWhile isWordChar
  let rest := s.dropWhile isWordChar
  match rest with
  | ' ' :: c :: more =>
    if isDate word && isDigit c then
      (ofWord? (word ++ ' ' :: (c :: more).takeWhile isWordChar)).map
        (·, (c :: more).dropWhile isWordChar)
    else (ofWord? word).map (·, rest)
  | _ => (ofWord? word).map (·, rest)

end Vigil.Toml
