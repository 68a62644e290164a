import Vigil.Domain.Punycode
import Vigil.Unicode.Direction
import Vigil.Unicode.Joining
import Vigil.Unicode.Mapping
import Vigil.Unicode.Mark
import Vigil.Unicode.NormalForm

/-!
# Labels of domain names

A label may stand in a domain name if each of its characters is kept by the
mapping, it is in normal form, it starts with no combining mark, and the two
characters that join letters stand only where they matter. Names with scripts
that are written from right to left have labels that do not mix directions.
-/

namespace Vigil.Domain

open Unicode

/-- What an encoded label starts with. -/
def encodedMark : List Char := ['x', 'n', '-', '-']

def isAscii (s : List Char) : Bool := s.all (·.toNat < 128)

/-- The class of marks that cut off the vowel of a letter. -/
def vowelKiller : Nat := 9

/-- Whether the joiners in a label stand where they matter; `before` is what
stands before, the nearest character first. -/
def joinersMatter (before : List Char) : List Char → Bool
  | [] => true
  | c :: rest =>
    let afterKiller := (before.head?.map combiningClass) == some vowelKiller
    let between := ((before.dropWhile isSeenThrough).head?.map joinsNext) == some true &&
      ((rest.dropWhile isSeenThrough).head?.map joinsPrevious) == some true
    (c != '\u200c' || afterKiller || between) && (c != '\u200d' || afterKiller) &&
      joinersMatter (c :: before) rest

/-- Whether a label may stand in a domain name. -/
def isValid (label : List Char) : Bool :=
  normalForm label == label && label.take 4 != encodedMark &&
    label.all (fun c => mapped? c == some [c]) &&
    (label.head?.map isMark) != some true && joinersMatter [] label

/-- Whether a label has characters of a script that is written from right to
left. -/
def turns (label : List Char) : Bool :=
  label.any fun c => [Direction.right, .arabic, .arabicNumber].contains (.ofChar c)

/-- Whether a label does not mix directions. -/
def keepsDirection (label : List Char) : Bool :=
  let ds := label.map Direction.ofChar
  let last := (ds.reverse.dropWhile (· == .attached)).head?
  let shared : List Direction :=
    [.number, .sign, .separator, .terminator, .neutral, .boundary, .attached]
  match ds.head? with
  | none => true
  | some .left =>
    ds.all ((.left :: shared).contains ·) && [some .left, some .number].contains last
  | some d =>
    [Direction.right, .arabic].contains d &&
      ds.all ((.right :: .arabic :: .arabicNumber :: shared).contains ·) &&
      [some .right, some .arabic, some .number, some .arabicNumber].contains last &&
      !(ds.contains .number && ds.contains .arabicNumber)

/-- The characters that a label stands for; `none` if it may not stand in a
domain name. -/
def plainLabel? (label : List Char) : Option (List Char) :=
  if label.take 4 = encodedMark then
    match Punycode.decode? (label.drop 4) with
    | none => none
    | some plain =>
      if isAscii label && !isAscii plain && isValid plain then some plain else none
  else if isAscii label || isValid label then some label
  else none

/-- A label in ASCII. -/
def asciiLabel (plain : List Char) : List Char :=
  if isAscii plain then plain else encodedMark ++ Punycode.encode plain

end Vigil.Domain
