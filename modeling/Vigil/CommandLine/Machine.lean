import Vigil.CommandLine.Addition
import Vigil.CommandLine.Help
import Vigil.Config.File
import Vigil.Store.Memory
import Vigil.Simulation.Service

/-!
# The program on a machine

A machine has files, databases by their places, a network, a clock and a supply
of ids. `Machine.execute` runs the program once: it reads its arguments, loads
the configuration, brings the schema of the database up to date, and carries out
the command.
-/

namespace Vigil.CommandLine

/-- What the program works on. -/
structure Machine where
  files : FileTree
  databases : List (Place × Database)
  network : Network
  wall : Time
  /-- The ids that are drawn one after another. -/
  ids : Nat → Uuid
  drawn : Nat
  /-- The directory for configurations, if one is named, and the home directory. -/
  configHome : Option String
  home : String

/-- Why a command fails. -/
inductive CommandError where
  | configuration
  | cannotOpen (path : String)
  | migration
  | addition (e : AdditionError)
  | store (e : StoreError)
deriving DecidableEq

def CommandError.message : CommandError → String
  | configuration => "loading configuration"
  | cannotOpen path =>
    "database pool: Error occurred while creating a new object: Failed to connect to " ++
      "database: \x60Unable to open connection to local database " ++ path ++ ": 14\x60"
  | migration => "database error"
  | addition (.invalid e) => e.message
  | addition (.store e) => e.text
  | store e => e.text

/-- How a run of the program ended. -/
structure Ended where
  code : Nat
  out : String
  err : String
  log : List LogLine

namespace Ended

def success (out : String) (log : List LogLine) : Ended := ⟨0, out, "", log⟩

/-- A cell of the wrong kind breaks the program off; all else is reported. -/
def failure (e : CommandError) (log : List LogLine) : Ended :=
  match e with
  | .store .mistyped => ⟨101, "", "", log⟩
  | .addition (.store .mistyped) => ⟨101, "", "", log⟩
  | e => ⟨1, "", "Error: " ++ e.message ++ "\n", log⟩

/-- The end of a run whose arguments were not acted upon. -/
def refused : Refusal → Ended
  | .misuse => ⟨2, "", "error: invalid arguments\n", []⟩
  | .helpAsked command => success (helpPage command) []
  | .versionAsked => success versionLine []

end Ended

/-- What the log says about the statements that bring a schema up to date. -/
def migrationLines (db : Database) : List LogLine :=
  let plan := Migration.plan (Migration.version db)
  if plan.isEmpty then
    [.info ("Database schema is up to date (version " ++ toString (Migration.version db) ++ ")")]
  else
    .info ("Running migrations from version " ++ toString (Migration.version db) ++ " to 2") ::
      plan.filterMap (fun
        | .record v description =>
          some (.info ("Applied migration v" ++ toString v ++ ": " ++ description))
        | _ => none) ++
      [.info "Database migrations completed successfully (now at version 2)"]

/-- An item on one line. -/
def itemLine (i : Item) : String :=
  let s := i.settings
  let lastRun := match i.progress.lastRun with
    | some t => t.offsetText
    | none => "never"
  i.id.text ++ "  " ++ padded s.name 20 ++ " " ++ padded s.probe 6 ++ " " ++
    padded s.target 32 ++ " " ++ padded i.progress.state.word 8 ++ " last " ++ lastRun ++ "  " ++
    i.progress.readings.summary ++ "\n"

/-- All items, by name. -/
def itemLines (items : List Item) : String :=
  String.join ((items.mergeSort fun a b => decide (a.settings.name ≤ b.settings.name)).map itemLine)

namespace Machine

/-- Whether a database by this path is kept nowhere. -/
def isTransient (path : String) : Bool := path.isEmpty || path == ":memory:"

/-- Where the database at a path is kept, if it is kept. -/
def databasePlace (path : String) (m : Machine) : Except FileError (Option Place) :=
  if isTransient path then .ok none else (m.files.placeOfFile path).map some

/-- The database at a path with its schema up to date, and what the log says. -/
def openDatabase (path : String) (m : Machine) :
    Except CommandError (Option Place × Database) × List LogLine :=
  match m.databasePlace path with
  | .error _ => (.error (.cannotOpen path), [])
  | .ok place =>
    let db := (place.bind (List.lookup · m.databases)).getD .empty
    let opened : LogLine := .info ("Initializing database schema at " ++ path)
    match db.migrate with
    | (_, false) => (.error .migration, [opened])
    | (db', true) => (.ok (place, db'), opened :: migrationLines db)

/-- The machine with a database at a place. -/
def keep (m : Machine) (place : Place) (db : Database) : Machine :=
  { m with databases := (place, db) :: m.databases.filter (·.1 != place) }

/-- The machine after work on a database. -/
def keepAt (m : Machine) (place : Option Place) (db : Database) : Machine :=
  match place with
  | none => m
  | some place => m.keep place db

/-- Carries out a command on a database, which is kept however it ends. -/
def onDatabase (path : String) (m : Machine)
    (run : Database → Except CommandError String × Database × List LogLine) : Ended × Machine :=
  match m.openDatabase path with
  | (.error e, log) => (.failure e log, m)
  | (.ok (place, db), log) =>
    match run db with
    | (.ok out, db, more) => (.success out (log ++ more), m.keepAt place db)
    | (.error e, db, more) => (.failure e (log ++ more), m.keepAt place db)

def add (c : Config) (n : NewItem) (m : Machine) : Ended × Machine :=
  let nodeId := m.ids m.drawn
  let id := m.ids (m.drawn + 1)
  onDatabase c.database.path { m with drawn := m.drawn + 2 } fun db =>
    match n.addTo nodeId id m.wall db with
    | (.error e, db) => (.error (.addition e), db, [])
    | (.ok item, db) => (.ok (item.id.text ++ "\n"), db,
        [.info ("Added " ++ item.settings.name ++ " (" ++ item.id.text ++ ") on node " ++ n.node)])

def list (c : Config) (m : Machine) : Ended × Machine :=
  onDatabase c.database.path m fun db =>
    match (Store.items : Access Database _) db with
    | (.error e, db) => (.error (.store e), db, [])
    | (.ok items, after) => (.ok (itemLines items), after,
        (Listing.leftOut db).map fun e => .warn ("Skipping unreadable item row: " ++ e.text))

/-- The service from its start until it is interrupted after a while. -/
def serve {σ : Type} [Store σ] [Directory σ] [Listing σ] (c : Config) (patience : Duration)
    (store : σ) (m : Machine) : Service σ :=
  let exporter := match c.exportPath with
    | some path => ExporterKind.file path
    | none => .absent
  let s := Service.build c m.wall (World.start store m.files exporter) m.network
  Service.stop ((s.begin c.retentionPolicy).advance patience)

/-- The machine after a run of the service. -/
def afterService {σ : Type} (m : Machine) (s : Service σ) : Machine :=
  { m with files := s.shared.world.files, network := s.outside }

/-- Runs the service until it is interrupted after a while. -/
def run (c : Config) (ephemeral : Bool) (patience : Duration) (m : Machine) : Ended × Machine :=
  if ephemeral then
    let s := m.serve c patience MemoryStore.empty
    (.success "" (.warn "Running with an in-memory store; nothing will be persisted" :: s.journal),
      m.afterService s)
  else
    match m.openDatabase c.database.path with
    | (.error e, log) => (.failure e log, m)
    | (.ok (place, db), log) =>
      let s := m.serve c patience db
      (.success "" (log ++ s.journal), (m.afterService s).keepAt place s.shared.world.store.inner)

/-- Carries out a command under a configuration. -/
def perform (c : Config) (patience : Duration) (m : Machine) : Command → Ended × Machine
  | .run ephemeral => m.run c ephemeral patience
  | .add n => m.add c n
  | .list => m.list c
  | .config => (.success c.summary [], m)

/-- The configuration file of a request. -/
def configFile (m : Machine) (request : Invocation) : String :=
  match request.configPath with
  | some path => Config.filePath path
  | none => Config.userPath m.configHome m.home

/-- Runs the program once. A run of the service is interrupted after `patience`. -/
def execute (words : List String) (patience : Duration) (m : Machine) : Ended × Machine :=
  match Invocation.ofArguments words with
  | .error r => (.refused r, m)
  | .ok request =>
    match Config.load (m.configFile request) m.files with
    | (.error _, files) => (.failure .configuration [], { m with files })
    | (.ok c, files) => { m with files }.perform c patience request.command

end Machine

end Vigil.CommandLine
