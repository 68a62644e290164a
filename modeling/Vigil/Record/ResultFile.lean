import Vigil.Record.Codec
import Vigil.Files.Tree

/-!
# Files of results

A file of results has one document on each line. Line ends within texts are
escaped, so each line end in the file ends a document.
-/

namespace Vigil.ResultFile

/-- The line of a snapshot. -/
def line (x : Snapshot) : String := x.json.compact ++ "\n"

/-- Appends a snapshot to a file, which comes to be if it is not there. -/
def append (path : String) (x : Snapshot) (t : FileTree) : Except FileError FileTree :=
  t.append path (line x).toUTF8.toList

end Vigil.ResultFile
