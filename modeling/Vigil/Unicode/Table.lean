/-!
# Tables of characters

Properties of characters are kept as lines of hexadecimal numbers with blanks
between the entries. A range is one number, or its two ends with a hyphen; a run
is its first number, its length after a plus sign and the first number of
another run after an angle; a sequence follows its character after an angle,
with dots between its numbers.
-/

namespace Vigil.Unicode

/-- The number that hexadecimal digits write. -/
def hex (s : String) : Nat :=
  s.toList.foldl (fun n c =>
    n * 16 + if c ≤ '9' then c.toNat - '0'.toNat else c.toNat - 'A'.toNat + 10) 0

/-- The numbers from the first one to the second one. -/
abbrev Range := Nat × Nat

/-- Numbers from `first` on, and those that belong to them from `image` on. -/
structure Run where
  first : Nat
  count : Nat
  image : Nat

/-- What belongs to a number in a run of every `step`-th number. -/
def Run.image? (step : Nat) (r : Run) (n : Nat) : Option Nat :=
  if r.first ≤ n ∧ n < r.first + step * r.count ∧ (n - r.first) % step = 0 then
    some (r.image + (n - r.first))
  else none

def range (s : String) : Range :=
  match s.splitOn "-" with
  | [a, b] => (hex a, hex b)
  | _ => (hex s, hex s)

/-- The entries of the lines of a table. -/
def entries (lines : List String) : List String := lines.flatMap (·.splitOn " ")

def ranges (lines : List String) : List Range := (entries lines).map range

def run (s : String) : Run :=
  match s.splitOn ">" with
  | [a, image] => match a.splitOn "+" with
    | [first, count] => ⟨hex first, hex count, hex image⟩
    | _ => ⟨hex a, 1, hex image⟩
  | _ => ⟨0, 0, 0⟩

def runs (lines : List String) : List Run := (entries lines).map run

def sequence (s : String) : Nat × List Nat :=
  match s.splitOn ">" with
  | [a, image] => (hex a, (image.splitOn ".").map hex)
  | _ => (hex s, [])

def sequences (lines : List String) : List (Nat × List Nat) := (entries lines).map sequence

/-- Classes of ranges: the ranges follow the number of their class after a colon,
with commas between them. -/
def classes (lines : List String) : List (Nat × List Range) :=
  (entries lines).map fun w => match w.splitOn ":" with
    | [a, rs] => (hex a, (rs.splitOn ",").map range)
    | _ => (hex w, [])

def inRanges (rs : List Range) (n : Nat) : Bool := rs.any fun (a, b) => a ≤ n && n ≤ b

end Vigil.Unicode
