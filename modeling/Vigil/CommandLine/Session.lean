import Vigil.CommandLine.Machine
import Vigil.Log.Format
import Vigil.Store.Codec

/-!
# Sessions

In a session the databases of a machine stand in its files: they are read before
the program runs, and written back after it. What a session shows is its log,
which is filtered by the configuration and the surroundings, and its output.
-/

namespace Vigil.CommandLine

/-- The database that octets hold. No octets are an empty database. -/
def databaseOf? (octets : List UInt8) : Option Database :=
  if octets.isEmpty then some .empty
  else ((String.fromUTF8? ⟨octets.toArray⟩).bind Json.parse?).bind Database.ofJson?

/-- Whether a command works on the configured database. -/
def Command.onDatabase : Command → Bool
  | run ephemeral => !ephemeral
  | add _ => true
  | list => true
  | config => false

namespace Machine

/-- The configuration under which a run would stand, if there is one. -/
def configuration? (m : Machine) (request : Invocation) : Option Config :=
  (Config.load (m.configFile request) m.files).1.toOption

/-- The files that a run may read and write, as far as the files at hand tell. -/
def touched (m : Machine) (words : List String) : List String :=
  match Invocation.ofArguments words with
  | .error _ => []
  | .ok request => m.configFile request ::
      match m.configuration? request with
      | some c => c.database.path :: c.exportPath.toList
      | none => []

/-- The machine with the database that a file holds; none if it holds something
else. -/
def mount? (m : Machine) (path : String) : Option Machine :=
  match m.files.read path, m.databasePlace path with
  | .ok octets, .ok (some place) => (databaseOf? octets).map (m.keep place)
  | _, _ => some m

/-- The machine with its databases in its files. -/
def settle (m : Machine) : Machine :=
  let files := m.databases.foldl
    (fun t (place, db) => t.set place (.file (Config.octets db.json.compact))) m.files
  { m with files }

/-- Runs the program once with its database in a file. -/
def session (words : List String) (patience : Duration) (m : Machine) : Ended × Machine :=
  let path? := match Invocation.ofArguments words with
    | .ok request => if request.command.onDatabase
        then (m.configuration? request).map (·.database.path) else none
    | .error _ => none
  match path? with
  | none => m.execute words patience
  | some path =>
    match m.mount? path with
    | none => (.failure .migration [], m)
    | some ready =>
      let (ended, after) := ready.execute words patience
      (ended, after.settle)

/-- The lines of a log that are shown, given the words for the format and the
filter. -/
def shownLog (m : Machine) (words : List String) (format filter : String)
    (log : List LogLine) : List String :=
  let request := (Invocation.ofArguments words).toOption
  match request.bind m.configuration? with
  | none => []
  | some c =>
    let logger := Logger.setUp c.logLevel format filter
    (logger.lines log).map (LogLine.text logger.format)

end Machine

end Vigil.CommandLine
