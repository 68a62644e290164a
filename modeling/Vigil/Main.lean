import Std.Time.DateTime.Timestamp
import Vigil.CommandLine.Session

/-!
# The command line

The program with the files, the clock and the chance of the machine at hand. Its
network is one in which every connection is refused, and a run of the service
ends after a minute of its own time.
-/

namespace Vigil.CommandLine

/-- What stands at a path on the machine at hand. -/
def entryAt (path : String) : IO (Option FileEntry) := do
  try
    return some (.file (← IO.FS.readBinFile path).toList)
  catch _ =>
    try
      let _ ← IO.FS.Handle.mk path .read
      return some .directory
    catch _ => return none

/-- The files with all that a path leads through. -/
def fetch (files : FileTree) (path : String) : IO FileTree :=
  (Path.stages path).foldlM (fun t stage => do
    match t.locate stage, ← entryAt stage with
    | .ok place, some entry => return t.set place entry
    | _, _ => return t) files

/-- The machine with the files that a run touches. Which they are is known when
the configuration has been read. -/
def prepare (words : List String) (m : Machine) : IO Machine := do
  let m := { m with files := ← (m.touched words).foldlM fetch m.files }
  return { m with files := ← (m.touched words).foldlM fetch m.files }

/-- Writes the file at a path if a run has changed it. -/
def writeBack (before after : FileTree) (path : String) : IO Unit := do
  if let some octets := before.revision? after path then
    if let some (directory, _) := Path.cutName? path.toList then
      if directory != [] then IO.FS.createDirAll (String.ofList directory)
    IO.FS.writeBinFile path ⟨octets.toArray⟩

/-- The time by the clock of the machine. -/
def clock : IO Time := do
  let now ← Std.Time.Timestamp.now
  return (Time.ofNanos? now.toNanosecondsSinceUnixEpoch.val).getD .epoch

/-- How long a run of the service lasts. -/
def lifetime : Duration := .ofSeconds 60

/-- Runs the program: the number with which it ends. -/
def run (words : List String) : IO UInt32 := do
  let first := Uuid.ofRandom (← IO.getRandomBytes 16).toList
  let second := Uuid.ofRandom (← IO.getRandomBytes 16).toList
  let machine ← prepare words {
    files := .empty
    databases := []
    network := Network.start 0 [] .zero
    wall := ← clock
    ids := fun n => if n == 0 then first else second
    drawn := 0
    configHome := ← IO.getEnv "XDG_CONFIG_HOME"
    home := (← IO.getEnv "HOME").getD "" }
  let (ended, after) := machine.session words lifetime
  for path in after.touched words do
    writeBack machine.files after.files path
  let format := (← IO.getEnv "RUST_LOG_FORMAT").getD ""
  let filter := (← IO.getEnv "RUST_LOG").getD ""
  for line in after.shownLog words format filter ended.log do
    IO.println line
  IO.print ended.out
  IO.eprint ended.err
  return ended.code.toUInt32

end Vigil.CommandLine

def main (words : List String) : IO UInt32 := Vigil.CommandLine.run words
