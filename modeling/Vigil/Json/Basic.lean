import Vigil.Decimal.Numeral

/-!
# JSON values

A JSON value keeps its numbers as they are written and its fields in the order
in which they stand. An `unreadable` value may be passed over, but cannot be
used.
-/

namespace Vigil

/-- A JSON value. -/
inductive Json where
  | null
  | bool (b : Bool)
  | number (n : Decimal.Numeral)
  | text (s : String)
  | array (items : List Json)
  | object (fields : List (String × Json))
  /-- A text with an escape that stands for no character, or an object with
  such a text among its names. -/
  | unreadable
deriving Inhabited

namespace Json

def ofInt (i : Int) : Json := number (.ofInt i)

def ofNat (n : Nat) : Json := ofInt n

/-- A double as a JSON number; the doubles that are no numbers become null. -/
def ofFloat (x : Float) : Json :=
  if x.isNaN || x.isInf then null else number (Decimal.Layout.json.numeral (Decimal.shortest x))

def text? : Json → Option String
  | text s => some s
  | _ => none

def bool? : Json → Option Bool
  | bool b => some b
  | _ => none

/-- The natural number below `bound` that a value is. -/
def nat? (bound : Nat) : Json → Option Nat
  | number n => n.toNat? bound
  | _ => none

/-- The value that `read` gives to a value other than null. -/
def optional? {α : Type} (read : Json → Option α) : Json → Option (Option α)
  | null => some none
  | v => (read v).map some

/-- The values of a record with the given field names. It is written as an
object, where the fields stand in any order, none of them twice and others are
passed over, or as an array of values in the order of the names, where values at
the end may be missing. -/
def fields? (names : List String) : Json → Option (List (Option Json))
  | object fields =>
    if names.all fun name => (fields.filter (·.1 == name)).length ≤ 1 then
      some (names.map fun name => fields.lookup name)
    else none
  | array items =>
    if items.length ≤ names.length then
      some (items.map some ++ List.replicate (names.length - items.length) none)
    else none
  | _ => none

/-- The word that names a value of an enumeration: a text, or an object whose
only field has that name and the value null. -/
def word? : Json → Option String
  | text s => some s
  | object [(s, null)] => some s
  | _ => none

end Json

end Vigil
