import Vigil.Time.Basic
import Vigil.Time.Calendar
import Vigil.Text.Blank
import Vigil.Decimal.Basic

/-!
# Times as text

Times are written as in RFC 3339, with a fraction of 3, 6 or 9 digits when one
is needed: the fewest of these that are exact. Years outside 0 to 9999 have a
sign. Reading is more lenient than that: numbers may have fewer digits, blanks
may stand around the parts, a `t` or a blank may divide date and time, and the
offset may lack its colon.
-/

namespace Vigil.Time

open Vigil.Calendar Vigil.Text

/-- A natural number with at least `width` digits. -/
def padded (width n : Nat) : List Char :=
  let digits := Nat.toDigits 10 n
  List.replicate (width - digits.length) '0' ++ digits

/-- The year of a date; outside of 0 to 9999 it has a sign. -/
def yearText (year : Int) : List Char :=
  if 0 ≤ year ∧ year ≤ 9999 then padded 4 year.toNat
  else (if year < 0 then '-' else '+') :: padded 4 year.natAbs

/-- The fraction of a second, with the fewest of 0, 3, 6 and 9 digits that show
all of it. -/
def fractionText (nanos : Nat) : List Char :=
  if nanos = 0 then []
  else if nanos % 1000000 = 0 then '.' :: padded 3 (nanos / 1000000)
  else if nanos % 1000 = 0 then '.' :: padded 6 (nanos / 1000)
  else '.' :: padded 9 nanos

/-- Date and time of day without an offset. A leap second is the second 60. -/
def clockText (t : Time) : List Char :=
  let date := dateOfDays (t.second.fdiv 86400)
  let ofDay := (t.second.fmod 86400).toNat
  let leap := t.nanos / nanosPerSecond
  yearText date.year ++ '-' :: padded 2 date.month ++ '-' :: padded 2 date.day ++
    'T' :: padded 2 (ofDay / 3600) ++ ':' :: padded 2 (ofDay / 60 % 60) ++
    ':' :: padded 2 (ofDay % 60 + leap) ++ fractionText (t.nanos % nanosPerSecond)

/-- The text of a time in records and documents. -/
def text (t : Time) : String := String.ofList (t.clockText ++ ['Z'])

/-- The text of a time in listings, which spell the offset out. -/
def offsetText (t : Time) : String := String.ofList (t.clockText ++ "+00:00".toList)

/-! ### Reading -/

/-- A number of at most `width` digits after any blanks, and the rest. -/
def readNumber? (width : Nat) (s : List Char) : Option (Nat × List Char) :=
  let s := trimStart s
  let digits := (s.take width).takeWhile Char.isDigit
  if digits.isEmpty then none else some (Decimal.ofDigits digits, s.drop digits.length)

/-- A year: four digits at most, or a sign and any number of digits. -/
def readYear? (s : List Char) : Option (Int × List Char) :=
  match trimStart s with
  | '-' :: rest =>
    let digits := rest.takeWhile Char.isDigit
    if digits.isEmpty then none
    else some (-(Decimal.ofDigits digits : Int), rest.drop digits.length)
  | '+' :: rest =>
    let digits := rest.takeWhile Char.isDigit
    if digits.isEmpty then none
    else some ((Decimal.ofDigits digits : Int), rest.drop digits.length)
  | s => (readNumber? 4 s).map fun (n, rest) => ((n : Int), rest)

/-- Drops blanks and then the given character. -/
def readMark? (mark : Char) (s : List Char) : Option (List Char) :=
  match trimStart s with
  | c :: rest => if c = mark then some rest else none
  | [] => none

/-- The nanoseconds after the seconds, if there is a point; digits after the
ninth do not count. -/
def readFraction? : List Char → Option (Nat × List Char)
  | '.' :: rest =>
    let digits := rest.takeWhile Char.isDigit
    if digits.isEmpty then none
    else
      let kept := digits.take 9
      some (Decimal.ofDigits kept * Nat.pow 10 (9 - kept.length), rest.drop digits.length)
  | s => some (0, s)

/-- Two digits exactly. -/
def readPair? : List Char → Option (Nat × List Char)
  | a :: b :: rest =>
    if a.isDigit && b.isDigit then some (Decimal.ofDigits [a, b], rest) else none
  | _ => none

/-- The offset from universal time in seconds, and the rest. -/
def readOffset? (s : List Char) : Option (Int × List Char) :=
  let signed (sign : Int) (rest : List Char) : Option (Int × List Char) := do
    let (hours, rest) ← readPair? rest
    let rest := rest.dropWhile fun c => c == ':' || isBlank c
    let (minutes, rest) ← readPair? rest
    if minutes < 60 ∧ hours < 24 then some (sign * (hours * 3600 + minutes * 60), rest) else none
  match s with
  | 'z' :: rest => some (0, rest)
  | 'Z' :: rest => some (0, rest)
  | 'U' :: 'T' :: 'C' :: rest => some (0, rest)
  | '+' :: rest => signed 1 rest
  | '-' :: rest => signed (-1) rest
  | '\u2212' :: rest => signed (-1) rest
  | _ =>
    if (s.take 3).map Char.toLower = ['u', 't', 'c'] then some (0, s.drop 3) else none

/-- The time that a text writes, if it writes one. -/
def ofText? (s : String) : Option Time := do
  let (year, rest) ← readYear? s.toList
  let rest ← readMark? '-' rest
  let (month, rest) ← readNumber? 2 rest
  let rest ← readMark? '-' rest
  let (day, rest) ← readNumber? 2 rest
  let rest ← match rest with
    | c :: rest => if c = 't' ∨ c = 'T' ∨ c = ' ' then some rest else none
    | [] => none
  let (hour, rest) ← readNumber? 2 rest
  let rest ← readMark? ':' rest
  let (minute, rest) ← readNumber? 2 rest
  let rest ← readMark? ':' rest
  let (second, rest) ← readNumber? 2 rest
  let (nanos, rest) ← readFraction? rest
  let (offset, rest) ← readOffset? (trimStart rest)
  let date : Date := ⟨year, month, day⟩
  if trimStart rest ≠ [] ∨ ¬ date.valid ∨ 24 ≤ hour ∨ 60 ≤ minute ∨ 60 < second then none
  else
    let leap : Nat := if second = 60 then 1 else 0
    ofParts? (daysOfDate date * 86400 + hour * 3600 + minute * 60 + (second - leap) - offset)
      (nanos + leap * nanosPerSecond)

end Vigil.Time
