/-!
# TOML values

A TOML document is a table: named values, some of which are tables themselves.
How a table came to be rules what may be added to it later in the document.
-/

namespace Vigil

/-- How a table came to be. -/
inductive Toml.Origin where
  /-- It was written as a value, and is complete. -/
  | inline
  /-- It is on the way to a table with a header. -/
  | implied
  /-- It is on the way to a dotted key. -/
  | dotted
  /-- It has a header of its own. -/
  | headed
deriving DecidableEq, Repr

/-- A TOML value. -/
inductive Toml where
  | text (s : String)
  | integer (i : Int)
  | float (x : Float)
  | bool (b : Bool)
  /-- A date, a time or both, as it is written. -/
  | moment (s : String)
  | array (items : List Toml)
  | table (origin : Toml.Origin) (fields : List (String × Toml))
  /-- The tables whose headers stand in double brackets. -/
  | tables (items : List (List (String × Toml)))
deriving Inhabited

namespace Toml

/-- The named values of a table. -/
abbrev Fields := List (String × Toml)

def text? : Toml → Option String
  | text s => some s
  | _ => none

def integer? : Toml → Option Int
  | integer i => some i
  | _ => none

/-- The values of a record with the given field names. It is written as a table,
where other fields are passed over, or as an array of values in the order of the
names, where values at the end may be missing and further ones are passed over. -/
def fields? (names : List String) : Toml → Option (List (Option Toml))
  | table _ fields => some (names.map fun name => fields.lookup name)
  | array items => some (names.mapIdx fun i _ => items[i]?)
  | tables items => some (names.mapIdx fun i _ => (items[i]?).map (table .headed))
  | _ => none

end Toml

end Vigil
