import Vigil.Text.Quoted

/-!
# Severity levels

A check that fails is reported at one of four levels. Levels, health states and
log modes are all written as words, and a word that names none of them is
refused by `Unrecognised`.
-/

namespace Vigil

/-- A word that names no state, level or mode. -/
structure Unrecognised where
  word : String
deriving Repr, DecidableEq

def Unrecognised.message (e : Unrecognised) : String :=
  "unrecognised state or level: " ++ Text.quoted e.word

/-- The severity that an item reports while its check fails. -/
inductive Level where
  | info
  | warn
  | low
  | high
deriving Repr, DecidableEq, Inhabited

namespace Level

def all : List Level := [info, warn, low, high]

def word : Level → String
  | info => "info"
  | warn => "warn"
  | low => "low"
  | high => "high"

/-- The level that a word names. -/
def ofWord (s : String) : Except Unrecognised Level :=
  match s with
  | "info" => .ok info
  | "warn" => .ok warn
  | "low" => .ok low
  | "high" => .ok high
  | _ => .error ⟨s⟩

@[simp] theorem ofWord_word (l : Level) : ofWord l.word = .ok l := by
  cases l <;> rfl

end Level

end Vigil
