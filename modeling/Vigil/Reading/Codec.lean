import Vigil.Reading.Basic
import Vigil.Json.Reader
import Vigil.Json.Writer

/-!
# Readings as JSON

Readings are one JSON object. A number that is infinite or undefined is written
as null, which is not read back.
-/

namespace Vigil

namespace Reading

def json : Reading → Json
  | number x => .ofFloat x
  | text s => .text s

def ofJson? : Json → Option Reading
  | .number n => n.toFloat?.map number
  | .text s => some (text s)
  | _ => none

end Reading

namespace Readings

def json (m : Readings) : Json := .object (m.toList.map fun (key, r) => (key, r.json))

/-- Of several fields with one name the last counts. -/
def ofJson? : Json → Option Readings
  | .object fields =>
    fields.foldlM (fun m (key, v) => (Reading.ofJson? v).map fun r => m.insert key r) empty
  | _ => none

/-- The text in which readings are kept. -/
def text (m : Readings) : String := m.json.compact

def ofText? (s : String) : Option Readings := (Json.parse? s).bind ofJson?

end Readings

end Vigil
