import Vigil.Unicode.Composition

/-!
# The canonical normal form

Characters that look the same have several spellings. The normal form takes
every character apart, orders the combining marks by their classes, and composes
what can be composed. Syllables of Hangul are taken apart and composed by
arithmetic.
-/

namespace Vigil.Unicode

namespace Hangul

def firstSyllable : Nat := 0xAC00
def firstLead : Nat := 0x1100
def firstVowel : Nat := 0x1161
/-- The number before the one of the first tail. -/
def beforeTail : Nat := 0x11A7
def leads : Nat := 19
def vowels : Nat := 21
/-- The tails, and no tail. -/
def tails : Nat := 28

/-- The letters of a syllable. -/
def letters? (n : Nat) : Option (List Nat) :=
  if firstSyllable ≤ n ∧ n < firstSyllable + leads * vowels * tails then
    let i := n - firstSyllable
    let tail := i % tails
    some ([firstLead + i / (vowels * tails), firstVowel + i / tails % vowels] ++
      if tail = 0 then [] else [beforeTail + tail])
  else none

/-- The syllable of a lead and a vowel, or of a syllable without a tail and a
tail. -/
def compose? (a b : Nat) : Option Nat :=
  if firstLead ≤ a ∧ a < firstLead + leads ∧ firstVowel ≤ b ∧ b < firstVowel + vowels then
    some (firstSyllable + ((a - firstLead) * vowels + (b - firstVowel)) * tails)
  else if firstSyllable ≤ a ∧ a < firstSyllable + leads * vowels * tails ∧
      (a - firstSyllable) % tails = 0 ∧ beforeTail < b ∧ b < beforeTail + tails then
    some (a + (b - beforeTail))
  else none

end Hangul

/-- A character taken apart, in up to `depth` steps. -/
def partsOf : Nat → Nat → List Nat
  | 0, n => [n]
  | depth + 1, n =>
    match Hangul.letters? n <|> compositeTable.lookup n <|> replacedTable.lookup n with
    | some parts => parts.flatMap (partsOf depth)
    | none => [n]

/-- No character takes more steps than this to be taken apart. -/
def maxDepth : Nat := 4

def decompose (s : List Char) : List Char :=
  s.flatMap fun c => (partsOf maxDepth c.toNat).map Char.ofNat

/-- Puts the marks after each letter into the order of their classes. -/
def orderMarks (s : List Char) : List Char :=
  let flush (done marks : List Char) : List Char :=
    done ++ marks.mergeSort fun a b => decide (combiningClass a ≤ combiningClass b)
  let (done, marks) := s.foldl (fun (done, marks) c =>
    if combiningClass c = 0 then (flush done marks ++ [c], []) else (done, marks ++ [c])) ([], [])
  flush done marks

/-- The character that two characters make up. -/
def pair? (a b : Char) : Option Char :=
  (Hangul.compose? a.toNat b.toNat <|>
    (compositeTable.find? fun (_, parts) => parts == [a.toNat, b.toNat]).map (·.1)).map Char.ofNat

/-- Composes a letter with what follows it. The marks between them are those that
could not be composed, and `above` is the class of the last one. -/
def composeFrom (letter : Char) (marks : List Char) (above : Nat) : List Char → List Char
  | [] => letter :: marks
  | c :: rest =>
    let k := combiningClass c
    match if marks.isEmpty ∨ above < k then pair? letter c else none with
    | some composed => composeFrom composed marks above rest
    | none =>
      if k = 0 then letter :: marks ++ composeFrom c [] 0 rest
      else composeFrom letter (marks ++ [c]) k rest

/-- Composes the letters of a text with the marks after them. -/
def compose (s : List Char) : List Char :=
  let start := s.takeWhile (combiningClass · != 0)
  match s.dropWhile (combiningClass · != 0) with
  | [] => start
  | c :: rest => start ++ composeFrom c [] 0 rest

/-- The normal form of a text. -/
def normalForm (s : List Char) : List Char := compose (orderMarks (decompose s))

end Vigil.Unicode
