import Vigil.Store.Schema

/-!
# Migrations

A migration brings the schema up to date by one statement after another. Each
statement may be applied again to what it made, except for the record of a
version, and the record of a version comes after all it stands for. A run that
was cut off can therefore be run again.
-/

namespace Vigil

/-- A statement of a migration. -/
inductive Migration where
  /-- Makes the table of versions, unless it exists. -/
  | createVersions
  /-- Makes a table, unless it exists. -/
  | createTable (name : TableName)
  /-- Makes an index on an existing table, unless it exists. -/
  | createIndex (index : Index)
  /-- Notes that a version was applied. -/
  | record (version : Int) (description : String)
deriving DecidableEq, Repr

namespace Migration

/-- The database after a statement; a statement that fails changes nothing. -/
def after? (db : Database) : Migration → Option Database
  | createVersions => some { db with versions := some (db.versions.getD []) }
  | createTable name =>
    match db.table? name with
    | some _ => some db
    | none => some (db.setTable name (some .empty))
  | createIndex index =>
    if (db.table? index.table).isNone then none
    else if index ∈ db.indexes then some db
    else some { db with indexes := db.indexes ++ [index] }
  | record version description =>
    match db.versions with
    | none => none
    | some versions =>
      if versions.any (·.1 == version) then none
      else some { db with versions := some (versions ++ [(version, description)]) }

/-- The tables. -/
def first : List Migration :=
  TableName.all.map createTable ++ [record 1 "Initial schema"]

/-- The indexes for reading the history of an item and for dropping old records. -/
def second : List Migration :=
  Index.all.map createIndex ++ [record 2 "Add history and event log indexes"]

/-- The version of the schema: the greatest one applied, as a signed word of 32
bits, or zero. -/
def version (db : Database) : Int :=
  match db.versions.getD [] with
  | [] => 0
  | v :: vs => (vs.foldl (fun m w => max m w.1) v.1).bmod UInt32.size

/-- What is to be done from a version on. -/
def plan (version : Int) : List Migration :=
  (if version < 1 then first else []) ++ (if version < 2 then second else [])

/-- Runs statements until one fails: the database, and whether none did. -/
def runAll (db : Database) : List Migration → Database × Bool
  | [] => (db, true)
  | m :: ms =>
    match m.after? db with
    | none => (db, false)
    | some next => runAll next ms

@[simp] theorem runAll_nil (db : Database) : runAll db [] = (db, true) := rfl

theorem runAll_cons (db : Database) (m : Migration) (ms : List Migration) :
    runAll db (m :: ms) = match m.after? db with
      | none => (db, false)
      | some next => runAll next ms := rfl

/-- The statements of a run on a database: first the table of versions, and then
what its version asks for. -/
def statements (db : Database) : List Migration :=
  createVersions :: plan (version { db with versions := some (db.versions.getD []) })

end Migration

namespace Database

/-- Brings the schema up to date: the database, and whether nothing failed. -/
def migrate (db : Database) : Database × Bool := Migration.runAll db (Migration.statements db)

/-- A run of the migrations that is cut off after some statements. -/
def migrateCutOff (db : Database) (count : Nat) : Database :=
  (Migration.runAll db ((Migration.statements db).take count)).1

/-- A database with the newest schema and no data. -/
def fresh : Database := empty.migrate.1

end Database

end Vigil
