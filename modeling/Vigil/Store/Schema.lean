import Vigil.Store.Table

/-!
# The schema of the database

Four tables hold nodes, items, history and events; a fifth one holds the versions
of the schema that were applied. Times are whole milliseconds since the start of
1970.
-/

namespace Vigil

/-- The tables that hold data. -/
inductive TableName where
  | nodes
  | items
  | history
  | events
deriving DecidableEq, Repr

/-- The indexes of the second version. -/
inductive Index where
  | historyByItem
  | eventsByTime
  | itemsByDue
deriving DecidableEq, Repr

/-- A column of a table. -/
structure Column where
  name : String
  affinity : Affinity
  mayBeNull : Bool
  unique : Bool

namespace TableName

def all : List TableName := [nodes, items, history, events]

def word : TableName → String
  | nodes => "nodes"
  | items => "items"
  | history => "item_history"
  | events => "event_log"

def ofWord? (s : String) : Option TableName := all.find? (·.word == s)

/-- A column that always holds a text. -/
def textColumn (name : String) : Column := ⟨name, .text, false, false⟩

/-- A column that always holds an integer. -/
def integerColumn (name : String) : Column := ⟨name, .integer, false, false⟩

/-- The columns of a table, in order. The first one names the row. -/
def columns : TableName → List Column
  | nodes => [⟨"id", .text, true, true⟩, ⟨"name", .text, false, true⟩,
      ⟨"changed_at", .integer, true, false⟩]
  | items => ⟨"id", .text, true, true⟩ ::
      (["node_id", "name", "probe_type", "target", "params", "mode", "script"].map textColumn ++
        ["interval_seconds", "timeout_seconds", "retry"].map integerColumn ++
        ["level", "log_mode"].map textColumn ++ ["enabled", "next_due"].map integerColumn ++
        [⟨"last_run", .integer, true, false⟩] ++ ["result", "state"].map textColumn)
  | history => [⟨"id", .integer, false, true⟩, textColumn "item_id", integerColumn "time",
      textColumn "state", textColumn "result"]
  | events => [⟨"id", .integer, false, true⟩, integerColumn "time", textColumn "category",
      textColumn "level", textColumn "subject_id", textColumn "subject_name",
      textColumn "message"]

/-- Whether the rows of a table are numbered. -/
def numbered : TableName → Bool
  | history => true
  | events => true
  | _ => false

end TableName

namespace Index

def all : List Index := [historyByItem, eventsByTime, itemsByDue]

def word : Index → String
  | historyByItem => "idx_item_history_item_time"
  | eventsByTime => "idx_event_log_time"
  | itemsByDue => "idx_items_next_due"

def ofWord? (s : String) : Option Index := all.find? (·.word == s)

/-- The table that an index belongs to. -/
def table : Index → TableName
  | historyByItem => .history
  | eventsByTime => .events
  | itemsByDue => .items

end Index

/-- The database: the tables that exist, the indexes, and the versions that were
applied, if their table exists. -/
structure Database where
  nodes : Option Table
  items : Option Table
  history : Option Table
  events : Option Table
  indexes : List Index
  versions : Option (List (Int × String))
deriving DecidableEq, Inhabited

namespace Database

/-- A database without any tables. -/
def empty : Database := ⟨none, none, none, none, [], none⟩

def table? (db : Database) : TableName → Option Table
  | .nodes => db.nodes
  | .items => db.items
  | .history => db.history
  | .events => db.events

def setTable (db : Database) (name : TableName) (t : Option Table) : Database :=
  match name with
  | .nodes => { db with nodes := t }
  | .items => { db with items := t }
  | .history => { db with history := t }
  | .events => { db with events := t }

@[simp] theorem table?_setTable (db : Database) (name : TableName) (t : Option Table) :
    (db.setTable name t).table? name = t := by
  cases name <;> rfl

theorem table?_setTable_of_ne {db : Database} {name other : TableName} {t : Option Table}
    (h : name ≠ other) : (db.setTable name t).table? other = db.table? other := by
  cases name <;> cases other <;> first | rfl | exact absurd rfl h

/-- Drops a table with its indexes. -/
def dropTable (db : Database) (name : TableName) : Database :=
  { db.setTable name none with indexes := db.indexes.filter (·.table != name) }

def dropIndex (db : Database) (index : Index) : Database :=
  { db with indexes := db.indexes.filter (· != index) }

/-- Drops the table of versions. -/
def dropVersions (db : Database) : Database := { db with versions := none }

/-- Makes the given versions the only ones that were applied. -/
def resetVersions (db : Database) (versions : List (Int × String)) : Database :=
  { db with versions := some versions }

/-- The versions that were applied, in rising order. -/
def appliedVersions (db : Database) : List (Int × String) :=
  (db.versions.getD []).mergeSort fun a b => a.1 ≤ b.1

/-- The name of every table and index, with the table of versions. -/
def objects (db : Database) : List String :=
  (db.indexes.map fun i => "index " ++ i.word) ++
    ((TableName.all.filter fun n => (db.table? n).isSome).map fun n => "table " ++ n.word) ++
    (if db.versions.isSome then ["table schema_migrations"] else [])

end Database

end Vigil
