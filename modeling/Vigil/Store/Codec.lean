import Vigil.Json.Reader
import Vigil.Record.Codec
import Vigil.Store.Schema

/-!
# Databases as JSON

`Database.json` writes all of a database as one value, in which it can be kept
between two runs, and `Database.ofJson?` reads it back. A cell is null, a number
or a text, and a row an array of cells.
-/

namespace Vigil

namespace Cell

def json : Cell → Json
  | null => .null
  | integer i => .ofInt i
  | text s => .text s

def ofJson? : Json → Option Cell
  | .null => some null
  | .number n => n.toInt?.map integer
  | .text s => some (text s)
  | _ => none

end Cell

namespace Json

/-- The values of an array, through `read`. -/
def list? {α : Type} (read : Json → Option α) : Json → Option (List α)
  | array items => items.mapM read
  | _ => none

end Json

namespace Table

def fieldNames : List String := ["rows", "last"]

def json (t : Table) : Json :=
  .object (fieldNames.zip [.array (t.rows.map fun r => .array (r.map Cell.json)),
    .ofInt t.lastNumber])

def ofJson? (v : Json) : Option Table := do
  match ← v.fields? fieldNames with
  | [some rows, some (.number last)] =>
    return ⟨← rows.list? (Json.list? Cell.ofJson?), ← last.toInt?⟩
  | _ => none

end Table

namespace Database

def fieldNames : List String := TableName.all.map TableName.word ++ ["indexes", "versions"]

def versionJson (v : Int × String) : Json := .array [.ofInt v.1, .text v.2]

def version? : Json → Option (Int × String)
  | .array [.number n, .text description] => n.toInt?.map fun i => (i, description)
  | _ => none

def json (db : Database) : Json :=
  .object (fieldNames.zip ((TableName.all.map fun name => .ofOption Table.json (db.table? name)) ++
    [.array (db.indexes.map fun i => .text i.word),
      .ofOption (fun versions => .array (versions.map versionJson)) db.versions]))

def ofJson? (v : Json) : Option Database := do
  match ← v.fields? fieldNames with
  | [some nodes, some items, some history, some events, some indexes, some versions] =>
    return {
      nodes := ← nodes.optional? Table.ofJson?
      items := ← items.optional? Table.ofJson?
      history := ← history.optional? Table.ofJson?
      events := ← events.optional? Table.ofJson?
      indexes := ← indexes.list? fun v => v.text?.bind Index.ofWord?
      versions := ← versions.optional? (Json.list? version?) }
  | _ => none

end Database

end Vigil
