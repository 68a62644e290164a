import Vigil.Decimal.Reader
import Vigil.Store.Basic

/-!
# Cells and rows

A table is made of rows, and a row of cells. A cell holds nothing, an integer of
64 bits or a text. A column prefers one of the two kinds: what is written into it
is turned into that kind if it can be.
-/

namespace Vigil

/-- The value in a column of a row. -/
inductive Cell where
  | null
  | integer (i : Int)
  | text (s : String)
deriving DecidableEq, Repr, Inhabited

/-- The cells of a row, in the order of its columns. -/
abbrev Row := List Cell

/-- The kind of value that a column prefers. -/
inductive Affinity where
  | integer
  | text
deriving DecidableEq, Repr

namespace Cell

/-- The integer of 64 bits that a text writes, also with a point or an exponent. -/
def integerOf? (s : String) : Option Int :=
  let (negative, digits) := Decimal.takeSign (Text.trim s.toList)
  match Decimal.readUnsigned? digits with
  | some ⟨_, units, exponent⟩ =>
    let n : Option Nat := match exponent with
      | .ofNat e =>
        if e ≤ 19 then some (units * Nat.pow 10 e) else if units = 0 then some 0 else none
      | .negSucc e =>
        if units % Nat.pow 10 (e + 1) = 0 then some (units / Nat.pow 10 (e + 1)) else none
    n.bind fun n =>
      let i : Int := if negative then -n else n
      if Int64.minValue.toInt ≤ i ∧ i ≤ Int64.maxValue.toInt then some i else none
  | none => none

/-- A value as it is kept in a column. -/
def convert : Affinity → Cell → Cell
  | .text, integer i => text (toString i)
  | .integer, text s => match integerOf? s with
    | some i => integer i
    | none => text s
  | _, c => c

/-- The text in a cell that must hold one. -/
def text? : Cell → Except StoreError String
  | text s => .ok s
  | null => .error .query
  | integer _ => .error .mistyped

/-- The integer in a cell that must hold one. -/
def integer? : Cell → Except StoreError Int
  | integer i => .ok i
  | null => .error .query
  | text _ => .error .mistyped

/-- The integer in a cell that may be empty. -/
def optionalInteger? : Cell → Except StoreError (Option Int)
  | integer i => .ok (some i)
  | null => .ok none
  | text _ => .error .mistyped

/-- The order of cells: empty ones first, then integers, then texts. -/
def order : Cell → Cell → Ordering
  | null, null => .eq
  | null, _ => .lt
  | _, null => .gt
  | integer i, integer j => compare i j
  | integer _, text _ => .lt
  | text _, integer _ => .gt
  | text s, text t => compare s t

def ofBool (b : Bool) : Cell := integer (if b then 1 else 0)

def ofOption (i : Option Int) : Cell :=
  match i with
  | none => null
  | some i => integer i

end Cell

end Vigil
