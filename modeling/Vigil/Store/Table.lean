import Vigil.Store.Cell

/-!
# Tables

A table is a list of rows in the order in which they were added, with the
greatest number that it ever gave to a row. The operations are those that the
statements of the database need.
-/

namespace Vigil

/-- The rows of a table, the oldest first. -/
structure Table where
  rows : List Row
  lastNumber : Int
deriving DecidableEq, Inhabited

namespace Table

def empty : Table := ⟨[], 0⟩

/-- Whether a row has a value in a column. -/
def holds (column : Nat) (value : Cell) (r : Row) : Bool := r[column]? == some value

/-- The rows with a value in a column. -/
def select (t : Table) (column : Nat) (value : Cell) : List Row :=
  t.rows.filter (holds column value)

/-- Changes the rows with a value in a column. -/
def modify (t : Table) (column : Nat) (value : Cell) (f : Row → Row) : Table :=
  { t with rows := t.rows.map fun r => if holds column value r then f r else r }

/-- Drops the rows that `drop` holds of. -/
def discard (t : Table) (drop : Row → Bool) : Table := { t with rows := t.rows.filter (!drop ·) }

def append (t : Table) (r : Row) : Table := { t with rows := t.rows ++ [r] }

/-- Adds a row in the place of those with its value in the first column. -/
def replace (t : Table) (r : Row) : Table :=
  (t.discard fun s => s[0]? == r[0]?).append r

/-- Adds a row under the next number, which becomes its first cell. -/
def appendNumbered (t : Table) (cells : Row) : Table :=
  ⟨t.rows ++ [.integer (t.lastNumber + 1) :: cells], t.lastNumber + 1⟩

/-- Whether the first row is at least as new as the second: it has the greater
value in the column, or the same one and the greater number. -/
def newerOrSame (column : Nat) (r s : Row) : Bool :=
  let key (r : Row) (i : Nat) : Cell := r[i]?.getD .null
  ((key s column).order (key r column)).then ((key s 0).order (key r 0)) |>.isLE

/-- Rows in falling order of a column; rows equal there in falling order of
their numbers. -/
def newestFirst (column : Nat) (rows : List Row) : List Row := rows.mergeSort (newerOrSame column)

/-- The first rows, as many as a limit says. The limit is taken as a signed word of
64 bits, and one below zero keeps every row. -/
def limited (limit : Nat) (rows : List Row) : List Row :=
  let bound := (UInt64.ofNat limit).toInt64.toInt
  if bound < 0 then rows else rows.take bound.toNat

end Table

end Vigil
