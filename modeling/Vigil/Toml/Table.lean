import Vigil.Toml.Basic

/-!
# Building tables

Headers and dotted keys lead from table to table; those on the way come to be
where they do not exist. A table has at most one header, a dotted key does not
reach into a table with a header, and nothing reaches into a table that was
written as a value.
-/

namespace Vigil.Toml

/-- The fields with another value under a name that they have. -/
def replace (name : String) (v : Toml) (t : Fields) : Fields :=
  t.map fun (k, w) => if k = name then (k, v) else (k, w)

/-- Changes the fields of the table at the end of a path. With `dotted` the path
is the front of a dotted key. -/
def alter? (dotted : Bool) (f : Fields → Option Fields) : List String → Fields → Option Fields
  | [], t => f t
  | k :: ks, t =>
    match t.lookup k with
    | none => do
      return t ++ [(k, .table (if dotted then .dotted else .implied) (← alter? dotted f ks []))]
    | some (.table origin u) =>
      if origin = .inline ∨ (dotted ∧ (origin = .headed ∨ (ks = [] ∧ origin = .implied))) then none
      else do return replace k (.table origin (← alter? dotted f ks u)) t
    | some (.tables us) =>
      match us.getLast? with
      | none => none
      | some u =>
        if dotted ∧ ks = [] then none
        else do return replace k (.tables (us.dropLast ++ [← alter? dotted f ks u])) t
    | some _ => none

/-- Adds a value under a dotted key that is new. -/
def insert? (path : List String) (v : Toml) (t : Fields) : Option Fields :=
  match path.getLast? with
  | none => none
  | some name =>
    alter? true (fun u => if u.any (·.1 == name) then none else some (u ++ [(name, v)]))
      path.dropLast t

/-- Starts the table that a header names. -/
def define? (path : List String) (t : Fields) : Option Fields :=
  match path.getLast? with
  | none => none
  | some name =>
    alter? false (fun u => match u.lookup name with
      | none => some (u ++ [(name, .table .headed [])])
      | some (.table .implied w) => some (replace name (.table .headed w) u)
      | some _ => none) path.dropLast t

/-- Starts another one of the tables that a header in double brackets names. -/
def append? (path : List String) (t : Fields) : Option Fields :=
  match path.getLast? with
  | none => none
  | some name =>
    alter? false (fun u => match u.lookup name with
      | none => some (u ++ [(name, .tables [[]])])
      | some (.tables ws) => some (replace name (.tables (ws ++ [[]])) u)
      | some _ => none) path.dropLast t

end Vigil.Toml
