import Vigil.Health.Level

/-!
# Log modes

The log mode of an item says which of its checks leave a history record and
which are handed to the exporter.
-/

namespace Vigil

/-- What is written down about an item's checks. Results of `ai` items are
also meant for a detector of anomalies. -/
inductive LogMode where
  | none
  | always
  | onChange
  | ai
deriving Repr, DecidableEq, Inhabited

namespace LogMode

def word : LogMode → String
  | none => "none"
  | always => "always"
  | onChange => "onchange"
  | ai => "ai"

/-- The mode that a word names; the empty word means that nothing is logged. -/
def ofWord (s : String) : Except Unrecognised LogMode :=
  match s with
  | "none" => .ok none
  | "" => .ok none
  | "always" => .ok always
  | "onchange" => .ok onChange
  | "ai" => .ok ai
  | _ => .error ⟨s⟩

@[simp] theorem ofWord_word (m : LogMode) : ofWord m.word = .ok m := by
  cases m <;> rfl

/-- Whether a check leaves a history record. -/
def records (m : LogMode) (changed : Bool) : Bool :=
  match m with
  | none => false
  | always => true
  | ai => true
  | onChange => changed

/-- Whether the result of a check is handed to the exporter. -/
def exports : LogMode → Bool
  | always => true
  | ai => true
  | none => false
  | onChange => false

end LogMode

end Vigil
