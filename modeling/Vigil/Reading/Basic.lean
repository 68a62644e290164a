import Std.Data.ExtTreeMap
import Vigil.Decimal.Reader
import Vigil.Decimal.Layout
import Vigil.Text.Blank

/-!
# Readings

What a check measures is kept in a finite map from keys to readings, in the
order of the keys. A reading is a number or a text; the numbers may be of any
type, and are doubles unless said otherwise. The key `error` holds the text of
the last failure.
-/

namespace Vigil

/-- A measured value. -/
inductive Reading (ν : Type := Float) where
  | number (x : ν)
  | text (s : String)
deriving Inhabited

/-- The measured values of an item by their keys. -/
abbrev Readings (ν : Type := Float) := Std.ExtTreeMap String (Reading ν)

/-- Numbers that can be read from text. -/
class ReadableNumber (ν : Type) where
  ofText? : List Char → Option ν

instance : ReadableNumber Float := ⟨Decimal.readFloat?⟩

namespace Reading

/-- A reading as it stands in summaries. -/
def summary : Reading → String
  | number x => Decimal.floatText x
  | text s => s

/-- A reading as a number; a text counts if it writes one between blanks. -/
def number? {ν : Type} [ReadableNumber ν] : Reading ν → Option ν
  | number x => some x
  | text s => ReadableNumber.ofText? (Text.trim s.toList)

def text? {ν : Type} : Reading ν → Option String
  | number _ => none
  | text s => some s

end Reading

namespace Readings

variable {ν : Type}

/-- The key under which the text of a failure is kept. -/
def errorKey : String := "error"

def empty : Readings ν := ∅

/-- The reading under a key as a number. -/
def number? [ReadableNumber ν] (m : Readings ν) (key : String) : Option ν :=
  (m[key]?).bind Reading.number?

/-- The reading under a key, if it is a text. -/
def text? (m : Readings ν) (key : String) : Option String := (m[key]?).bind Reading.text?

def setNumber (m : Readings ν) (key : String) (x : ν) : Readings ν := m.insert key (.number x)

def setText (m : Readings ν) (key s : String) : Readings ν := m.insert key (.text s)

def error? (m : Readings ν) : Option String := m.text? errorKey

def setError (m : Readings ν) (message : String) : Readings ν := m.setText errorKey message

def clearError (m : Readings ν) : Readings ν := m.erase errorKey

/-- All readings on one line, in the order of their keys. -/
def summary (m : Readings) : String :=
  " ".intercalate (m.toList.map fun (key, r) => key ++ "=" ++ r.summary)

@[simp] theorem number?_setNumber [ReadableNumber ν] (m : Readings ν) (key : String) (x : ν) :
    (m.setNumber key x).number? key = some x := by
  simp [number?, setNumber, Reading.number?]

@[simp] theorem error?_setError (m : Readings ν) (message : String) :
    (m.setError message).error? = some message := by
  simp [error?, setError, text?, setText, Reading.text?]

@[simp] theorem error?_clearError (m : Readings ν) : m.clearError.error? = none := by
  simp [error?, clearError, text?]

end Readings

end Vigil
