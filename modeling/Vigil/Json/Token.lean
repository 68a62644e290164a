import Vigil.Json.Basic
import Vigil.Decimal.Reader

/-!
# Tokens of JSON

`tokens?` cuts a text into the tokens of JSON: brackets, commas, colons, words,
numbers and texts. Blanks between tokens are dropped.
-/

namespace Vigil.Json

open Decimal

/-- A token. A text is `none` if an escape in it stands for no character. -/
inductive Token where
  | openArray
  | closeArray
  | openObject
  | closeObject
  | comma
  | colon
  | null
  | bool (b : Bool)
  | number (n : Numeral)
  | text (s : Option String)
deriving Repr, DecidableEq

namespace Token

def isBlank (c : Char) : Bool := c == ' ' || c == '\t' || c == '\n' || c == '\r'

/-- The value of a hexadecimal digit. -/
def hexDigit? (c : Char) : Option Nat :=
  if '0' ≤ c ∧ c ≤ '9' then some (c.toNat - '0'.toNat)
  else if 'a' ≤ c ∧ c ≤ 'f' then some (c.toNat - 'a'.toNat + 10)
  else if 'A' ≤ c ∧ c ≤ 'F' then some (c.toNat - 'A'.toNat + 10)
  else none

/-- The 16-bit unit that four hexadecimal digits write. -/
def unit? (a b c d : Char) : Option Nat := do
  return (((← hexDigit? a) * 16 + (← hexDigit? b)) * 16 + (← hexDigit? c)) * 16 + (← hexDigit? d)

/-- The character that a backslash and this letter stand for. -/
def escaped? : Char → Option Char
  | '"' => some '"'
  | '\\' => some '\\'
  | '/' => some '/'
  | 'b' => some '\x08'
  | 'f' => some '\x0c'
  | 'n' => some '\n'
  | 'r' => some '\r'
  | 't' => some '\t'
  | _ => none

/-- Whether a unit is the first half of a pair. -/
def isLeading (u : Nat) : Bool := 0xD800 ≤ u && u < 0xDC00

/-- Whether a unit is the second half of a pair. -/
def isTrailing (u : Nat) : Bool := 0xDC00 ≤ u && u < 0xE000

/-- The character that two halves of a pair stand for. -/
def pairChar (u v : Nat) : Char := Char.ofNat (0x10000 + (u - 0xD800) * 0x400 + (v - 0xDC00))

/-- What follows the opening quote of a text: its characters and the rest. The
characters are `none` if half of a pair stands alone. -/
def readText? : List Char → Option (Option (List Char) × List Char)
  | [] => none
  | '"' :: rest => some (some [], rest)
  | '\\' :: 'u' :: a :: b :: c :: d :: rest =>
    match unit? a b c d with
    | none => none
    | some u =>
      if isLeading u then
        match rest with
        | '\\' :: 'u' :: e :: f :: g :: h :: more =>
          match unit? e f g h with
          | none => none
          | some v =>
            if isTrailing v then
              (readText? more).map fun (s, r) => (s.map (pairChar u v :: ·), r)
            else (readText? more).map fun (_, r) => (none, r)
        | rest => (readText? rest).map fun (_, r) => (none, r)
      else if isTrailing u then (readText? rest).map fun (_, r) => (none, r)
      else (readText? rest).map fun (s, r) => (s.map (Char.ofNat u :: ·), r)
  | '\\' :: c :: rest =>
    match escaped? c with
    | none => none
    | some x => (readText? rest).map fun (s, r) => (s.map (x :: ·), r)
  | c :: rest =>
    if c.toNat < 0x20 ∨ c = '\\' then none
    else (readText? rest).map fun (s, r) => (s.map (c :: ·), r)

/-- The exponent at the start of a text, if its mark is there, and the rest. -/
def readExponent? (s : List Char) : Option (Option Int × List Char) :=
  match s with
  | c :: rest =>
    if c = 'e' ∨ c = 'E' then
      let (negative, rest) := takeSign rest
      let (digits, rest) := takeDigits rest
      if digits.isEmpty then none
      else
        let n : Int := ofDigits digits
        some (some (if negative then -n else n), rest)
    else some (none, s)
  | [] => some (none, [])

/-- Whether a minus is at the start of a text, and the rest. -/
def takeMinus : List Char → Bool × List Char
  | '-' :: rest => (true, rest)
  | s => (false, s)

/-- The digits after the point at the start of a text, if the point is there, and the rest. -/
def readFraction? : List Char → Option (List Char × List Char)
  | '.' :: rest =>
    let (fraction, rest) := takeDigits rest
    if fraction.isEmpty then none else some (fraction, rest)
  | s => some ([], s)

/-- The number at the start of a text, and the rest. A zero before the point
stands alone. -/
def readNumber? (s : List Char) : Option (Numeral × List Char) :=
  let (negative, s) := takeMinus s
  let (whole, s) := takeDigits s
  if whole.isEmpty || (whole.length > 1 && whole.head? == some '0') then none
  else do
    let (fraction, s) ← readFraction? s
    let (exponent, s) ← readExponent? s
    return (⟨negative, whole, fraction, exponent⟩, s)

/-- The token at the start of a text that does not start with a blank, and the
rest. -/
def read? : List Char → Option (Token × List Char)
  | '[' :: rest => some (openArray, rest)
  | ']' :: rest => some (closeArray, rest)
  | '{' :: rest => some (openObject, rest)
  | '}' :: rest => some (closeObject, rest)
  | ',' :: rest => some (comma, rest)
  | ':' :: rest => some (colon, rest)
  | 'n' :: 'u' :: 'l' :: 'l' :: rest => some (null, rest)
  | 't' :: 'r' :: 'u' :: 'e' :: rest => some (bool true, rest)
  | 'f' :: 'a' :: 'l' :: 's' :: 'e' :: rest => some (bool false, rest)
  | '"' :: rest => (readText? rest).map fun (s, r) => (text (s.map String.ofList), r)
  | s => (readNumber? s).map fun (n, r) => (number n, r)

/-- The tokens of a text, found within `fuel` steps. -/
def readAll? : Nat → List Char → Option (List Token)
  | 0, _ => none
  | fuel + 1, s =>
    match s.dropWhile isBlank with
    | [] => some []
    | s => do
      let (t, rest) ← read? s
      return t :: (← readAll? fuel rest)

end Token

/-- The tokens of a text. Every token takes a character at least, so the text
bounds their number. -/
def tokens? (s : List Char) : Option (List Token) := Token.readAll? (s.length + 1) s

end Vigil.Json
