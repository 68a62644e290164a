import Vigil.Store.Migration

/-!
# Migrations that are cut off

A run of the migrations may be cut off after any of its statements, and rows may be written
before the next run. What a statement does to the schema depends on the schema alone
(`Migration.after?_schema`), and it leaves the rows that are there (`Migration.keeps_after?`).
So the schema after any number of runs is one that a single first run passes through
(`exists_schema_upkeep`): this is the invariant that links the versions noted to the tables
and indexes that exist. From each of these schemas a whole run leads to the newest one.
-/

namespace Vigil

namespace Database

variable {db : Database}

/-! ### Schemas -/

/-- A database without its rows. -/
def schema (db : Database) : Database where
  nodes := db.nodes.map fun _ => .empty
  items := db.items.map fun _ => .empty
  history := db.history.map fun _ => .empty
  events := db.events.map fun _ => .empty
  indexes := db.indexes
  versions := db.versions

theorem table?_schema (db : Database) (name : TableName) :
    db.schema.table? name = (db.table? name).map fun _ => .empty := by
  cases name <;> rfl

theorem schema_setTable (db : Database) (name : TableName) (t : Table) :
    (db.setTable name (some t)).schema = db.schema.setTable name (some .empty) := by
  cases name <;> rfl

/-- Writing rows leaves the schema. -/
theorem schema_setTable_of_table? {name : TableName} {t : Table} (h : db.table? name = some t)
    (u : Table) : (db.setTable name (some u)).schema = db.schema := by
  cases name <;> simp_all [schema, setTable, table?]

/-- The tables of the second database are those of the first one, and empty ones in the place
of some that the first one does not have. -/
def Keeps (db e : Database) : Prop :=
  ∀ name, e.table? name = db.table? name ∨ (db.table? name = none ∧ e.table? name = some .empty)

namespace Keeps

variable {e f : Database}

theorem refl (db : Database) : Keeps db db := fun _ => .inl rfl

theorem trans (he : Keeps db e) (hf : Keeps e f) : Keeps db f := by
  intro name
  rcases he name with he | ⟨hnone, hempty⟩
  · rw [← he]
    exact hf name
  · rcases hf name with hf | ⟨habsent, -⟩
    · exact .inr ⟨hnone, hf.trans hempty⟩
    · rw [hempty] at habsent
      cases habsent

/-- What a table holds is kept, and a table that has come to be is empty. -/
theorem table?_eq (h : Keeps db e) {name : TableName} (he : (e.table? name).isSome = true) :
    e.table? name = some ((db.table? name).getD .empty) := by
  rcases h name with heq | ⟨hnone, hempty⟩
  · rw [heq] at he ⊢
    obtain ⟨t, ht⟩ := Option.isSome_iff_exists.1 he
    rw [ht, Option.getD_some]
  · rw [hempty, hnone, Option.getD_none]

end Keeps

end Database

/-! ### Statements -/

namespace Migration

open Database (Keeps)

variable {db e : Database} {m : Migration}

theorem after?_schema (db : Database) (m : Migration) :
    m.after? db.schema = (m.after? db).map Database.schema := by
  cases m with
  | createVersions => rfl
  | createTable name =>
      simp only [after?, Database.table?_schema]
      cases db.table? name with
      | none => exact congrArg some (db.schema_setTable name .empty).symm
      | some t => rfl
  | createIndex index =>
      simp only [after?, Database.table?_schema, Option.isNone_map]
      cases (db.table? index.table).isNone with
      | true => rfl
      | false =>
          by_cases hindex : index ∈ db.indexes
          · simp [hindex, Database.schema]
          · simp [hindex, Database.schema]
  | record version description =>
      cases hversions : db.versions with
      | none => simp [after?, Database.schema, hversions]
      | some versions =>
          simp only [after?, Database.schema, hversions]
          split <;> rfl

theorem keeps_after? (h : m.after? db = some e) : Keeps db e := by
  intro name
  cases m with
  | createVersions =>
      cases h
      exact .inl (by cases name <;> rfl)
  | createTable made =>
      simp only [after?] at h
      split at h
      · cases h
        exact .inl rfl
      · next hnone =>
        cases h
        by_cases hname : made = name
        · subst hname
          exact .inr ⟨hnone, db.table?_setTable made _⟩
        · exact .inl (Database.table?_setTable_of_ne hname)
  | createIndex index =>
      simp only [after?] at h
      split at h
      · cases h
      · split at h
        · cases h
          exact .inl rfl
        · cases h
          exact .inl (by cases name <;> rfl)
  | record version description =>
      simp only [after?] at h
      split at h
      · cases h
      · split at h
        · cases h
        · cases h
          exact .inl (by cases name <;> rfl)

theorem runAll_schema (db : Database) (ms : List Migration) :
    runAll db.schema ms = ((runAll db ms).1.schema, (runAll db ms).2) := by
  induction ms generalizing db with
  | nil => rfl
  | cons m ms ih =>
      rw [runAll_cons, runAll_cons, after?_schema]
      cases m.after? db with
      | none => rfl
      | some e => exact ih e

theorem keeps_runAll (db : Database) (ms : List Migration) : Keeps db (runAll db ms).1 := by
  induction ms generalizing db with
  | nil => exact .refl db
  | cons m ms ih =>
      rw [runAll_cons]
      cases h : m.after? db with
      | none => exact .refl db
      | some e => exact (keeps_after? h).trans (ih e)

theorem statements_schema (db : Database) : statements db.schema = statements db := rfl

theorem statements_congr (h : db.versions = e.versions) : statements db = statements e := by
  simp only [statements, version, h]

end Migration

/-! ### Runs -/

namespace Database

variable {db : Database}

theorem migrate_schema (db : Database) :
    db.schema.migrate = (db.migrate.1.schema, db.migrate.2) := by
  rw [migrate, Migration.statements_schema, Migration.runAll_schema]
  rfl

theorem migrateCutOff_schema (db : Database) (count : Nat) :
    db.schema.migrateCutOff count = (db.migrateCutOff count).schema := by
  rw [migrateCutOff, Migration.statements_schema, Migration.runAll_schema]
  rfl

/-- No run has more than ten statements. -/
theorem length_statements_le (db : Database) : (Migration.statements db).length ≤ 10 := by
  unfold Migration.statements Migration.plan
  split <;> split <;> decide

theorem migrateCutOff_of_le {count : Nat} (h : 10 ≤ count) :
    db.migrateCutOff count = db.migrate.1 := by
  rw [migrateCutOff, List.take_of_length_le (Nat.le_trans db.length_statements_le h), migrate]

theorem exists_migrateCutOff_eq (db : Database) (count : Nat) :
    ∃ c < 11, db.migrateCutOff count = db.migrateCutOff c := by
  rcases Nat.lt_or_ge count 11 with h | h
  · exact ⟨count, h, rfl⟩
  · exact ⟨10, by decide, by rw [migrateCutOff_of_le (by omega), migrateCutOff_of_le (by omega)]⟩

/-- A run from a schema that a first run passes through leads to another such schema. -/
theorem exists_stage (n count : Nat) :
    ∃ k, (empty.migrateCutOff n).migrateCutOff count = empty.migrateCutOff k := by
  obtain ⟨n, hn, hstage⟩ := exists_migrateCutOff_eq empty n
  obtain ⟨count, hcount, hrun⟩ := exists_migrateCutOff_eq (empty.migrateCutOff n) count
  have hstages : ∀ n < 11, ∀ count < 11, ∃ k < 11,
      (empty.migrateCutOff n).migrateCutOff count = empty.migrateCutOff k := by
    decide +kernel
  obtain ⟨k, -, hk⟩ := hstages n hn count hcount
  exact ⟨k, by rw [hstage, hrun, hk]⟩

/-- From each schema that a first run passes through a whole run leads to the newest one. -/
theorem migrate_stage (n : Nat) : (empty.migrateCutOff n).migrate = (fresh, true) := by
  obtain ⟨n, hn, hstage⟩ := exists_migrateCutOff_eq empty n
  have hstages : ∀ n < 11, (empty.migrateCutOff n).migrate = (fresh, true) := by
    decide +kernel
  rw [hstage, hstages n hn]

end Database

/-! ### Histories -/

/-- Something that happens to a database between two whole runs of the migrations. -/
inductive Upkeep where
  /-- A run of the migrations that is cut off after some statements. -/
  | run (count : Nat)
  /-- Rows are inserted into a table, or changed, if the table exists. -/
  | write (name : TableName) (change : Table → Table)

namespace Database

def upkeep (db : Database) : Upkeep → Database
  | .run count => db.migrateCutOff count
  | .write name change =>
    match db.table? name with
    | none => db
    | some t => db.setTable name (some (change t))

/-- A database after all that has happened to it. -/
def upkeepAll (db : Database) (history : List Upkeep) : Database := history.foldl upkeep db

variable {db : Database}

/-- The schema of a database that runs were cut off on is the schema after one first run that
is cut off. -/
theorem exists_schema_upkeep {n : Nat} (h : db.schema = empty.migrateCutOff n)
    (u : Upkeep) : ∃ k, (db.upkeep u).schema = empty.migrateCutOff k := by
  cases u with
  | run count =>
      obtain ⟨k, hk⟩ := exists_stage n count
      exact ⟨k, by rw [upkeep, ← migrateCutOff_schema, h, hk]⟩
  | write name change =>
      refine ⟨n, ?_⟩
      rw [upkeep, ← h]
      split
      · rfl
      · next t ht => exact schema_setTable_of_table? ht (change t)

theorem exists_schema_upkeepAll {n : Nat} (h : db.schema = empty.migrateCutOff n)
    (history : List Upkeep) : ∃ k, (db.upkeepAll history).schema = empty.migrateCutOff k := by
  induction history generalizing db n with
  | nil => exact ⟨n, h⟩
  | cons u history ih =>
      obtain ⟨k, hk⟩ := exists_schema_upkeep h u
      exact ih hk

/-! ### The newest schema -/

theorem objects_schema (db : Database) : db.schema.objects = db.objects := by
  unfold objects
  simp only [table?_schema, Option.isSome_map]
  rfl

/-- Nothing is left to be done for the newest schema. -/
theorem migrate_of_schema (h : db.schema = fresh) :
    db.migrate = (db, true) ∧ ∀ count, db.migrateCutOff count = db := by
  have hversions : db.versions = fresh.versions := by
    rw [← h]
    rfl
  have hstatements : Migration.statements db = [.createVersions] := by
    rw [Migration.statements_congr hversions]
    decide +kernel
  have hafter : Migration.createVersions.after? db = some db := by
    have hsome : some (db.versions.getD []) = db.versions := by
      rw [hversions]
      rfl
    rw [Migration.after?, hsome]
  refine ⟨?_, fun count => ?_⟩
  · rw [migrate, hstatements, Migration.runAll_cons, hafter]
    rfl
  · rw [migrateCutOff, hstatements]
    cases count with
    | zero => rfl
    | succ count =>
        rw [List.take_succ_cons, List.take_nil, Migration.runAll_cons, hafter]
        rfl

/-- The newest schema stays, whatever is written. -/
theorem schema_upkeepAll (h : db.schema = fresh) (later : List Upkeep) :
    (db.upkeepAll later).schema = fresh := by
  induction later generalizing db with
  | nil => exact h
  | cons u later ih =>
      refine ih ?_
      cases u with
      | run count => rw [upkeep, (migrate_of_schema h).2 count, h]
      | write name change =>
          rw [upkeep]
          split
          · exact h
          · next t ht => rw [schema_setTable_of_table? ht, h]

/-- The second database is the first one brought up to date. -/
structure UpToDate (db done : Database) : Prop where
  /-- It has the tables and the indexes that a first run makes. -/
  objects : done.objects = fresh.objects
  indexes : done.indexes = Index.all
  versions : done.versions =
    some [(1, "Initial schema"), (2, "Add history and event log indexes")]
  /-- The rows are as they were, and new tables are empty. -/
  rows : ∀ name, done.table? name = some ((db.table? name).getD .empty)
  /-- Further runs change nothing, whatever is written meanwhile. -/
  settled : ∀ later : List Upkeep, (done.upkeepAll later).migrate = (done.upkeepAll later, true) ∧
    ∀ count, (done.upkeepAll later).migrateCutOff count = done.upkeepAll later

theorem upToDate_of_schema {done : Database} (hschema : done.schema = fresh)
    (hkeeps : Keeps db done) : UpToDate db done where
  objects := by rw [← objects_schema, hschema]
  indexes := by
    have hindexes : done.schema.indexes = Index.all := by rw [hschema]; decide +kernel
    exact hindexes
  versions := by
    have hversions : done.schema.versions =
        some [(1, "Initial schema"), (2, "Add history and event log indexes")] := by
      rw [hschema]
      decide +kernel
    exact hversions
  rows := by
    intro name
    refine hkeeps.table?_eq ?_
    have hname := table?_schema done name
    rw [hschema] at hname
    have hfresh : (fresh.table? name).isSome = true := by
      cases name <;> decide +kernel
    rwa [hname, Option.isSome_map] at hfresh
  settled := fun later => migrate_of_schema (schema_upkeepAll hschema later)

/-- However often runs of the migrations were cut off, and whatever was written between them,
a run keeps the rows wherever it is cut off, and a whole run brings the database up to date and
fails at no statement. -/
theorem migrate_after_interruptions (history : List Upkeep) :
    (∀ count, Keeps (empty.upkeepAll history) ((empty.upkeepAll history).migrateCutOff count)) ∧
      (empty.upkeepAll history).migrate.2 = true ∧
      UpToDate (empty.upkeepAll history) (empty.upkeepAll history).migrate.1 := by
  have hstart : empty.schema = empty.migrateCutOff 0 := rfl
  obtain ⟨n, hn⟩ := exists_schema_upkeepAll hstart history
  have hmigrate := (migrate_schema (empty.upkeepAll history)).symm
  rw [hn, migrate_stage] at hmigrate
  obtain ⟨hschema, hdone⟩ := Prod.mk.inj hmigrate
  exact ⟨fun _ => Migration.keeps_runAll _ _, hdone,
    upToDate_of_schema hschema (Migration.keeps_runAll _ _)⟩

end Database

end Vigil
