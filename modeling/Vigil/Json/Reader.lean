import Vigil.Json.Token

/-!
# Reading JSON

`Json.parse?` reads a text as one JSON value. It runs over the tokens with a
stack of the arrays and objects that are still open, so that the depth of a
document is not limited.
-/

namespace Vigil.Json

/-- An array or object that is still open, with its members so far, the latest
first. An object waits for a value under a name, `none` if the name is
unreadable. -/
inductive Frame where
  | array (items : List Json)
  | object (fields : List (Option String × Json)) (name : Option String)

/-- What may come next in a document. -/
inductive Expecting where
  /-- The first member of an array, or its end. -/
  | firstItem
  | value
  /-- The first name of an object, or its end. -/
  | firstName
  | name
  | colon
  /-- A comma, or the end of the innermost open value. -/
  | next
deriving DecidableEq

/-- A point in the reading of a document. -/
structure Position where
  expecting : Expecting
  frames : List Frame
  /-- The value of the document, once it is read. -/
  done : Option Json

namespace Position

/-- Before the first token. -/
def start : Position := ⟨.value, [], none⟩

/-- After a value that is complete. -/
def complete (p : Position) (v : Json) : Position :=
  match p.frames with
  | [] => ⟨.next, [], some v⟩
  | .array items :: frames => ⟨.next, .array (v :: items) :: frames, none⟩
  | .object fields name :: frames => ⟨.next, .object ((name, v) :: fields) none :: frames, none⟩

/-- An object with these members, the latest first. -/
def objectOf (fields : List (Option String × Json)) : Json :=
  match fields.reverse.mapM fun (name, v) => name.map fun name => (name, v) with
  | some fields => .object fields
  | none => .unreadable

/-- The value that a token is by itself. -/
def scalar? : Token → Option Json
  | .null => some .null
  | .bool b => some (.bool b)
  | .number n => some (.number n)
  | .text (some s) => some (.text s)
  | .text none => some .unreadable
  | _ => none

/-- A token where a value may start. -/
def startValue? (p : Position) (t : Token) : Option Position :=
  match t with
  | .openArray => some ⟨.firstItem, .array [] :: p.frames, none⟩
  | .openObject => some ⟨.firstName, .object [] none :: p.frames, none⟩
  | t => (scalar? t).map p.complete

/-- A token where a name must stand. -/
def takeName? (p : Position) (t : Token) : Option Position :=
  match t, p.frames with
  | .text name, .object fields _ :: frames => some ⟨.colon, .object fields name :: frames, none⟩
  | _, _ => none

/-- The end of the innermost open value. -/
def close? (p : Position) (t : Token) : Option Position :=
  match t, p.frames with
  | .closeArray, .array items :: frames =>
    some ((⟨.next, frames, none⟩ : Position).complete (.array items.reverse))
  | .closeObject, .object fields _ :: frames =>
    some ((⟨.next, frames, none⟩ : Position).complete (objectOf fields))
  | _, _ => none

/-- The position after one more token. -/
def step? (p : Position) (t : Token) : Option Position :=
  match p.expecting with
  | .value => p.startValue? t
  | .firstItem => if t = .closeArray then p.close? t else p.startValue? t
  | .firstName => if t = .closeObject then p.close? t else p.takeName? t
  | .name => p.takeName? t
  | .colon => if t = .colon then some { p with expecting := .value } else none
  | .next =>
    match t, p.frames with
    | .comma, .array _ :: _ => some { p with expecting := .value }
    | .comma, .object _ _ :: _ => some { p with expecting := .name }
    | t, _ => p.close? t

/-- The position after all tokens of a list. -/
def run? (p : Position) : List Token → Option Position
  | [] => some p
  | t :: ts => (p.step? t).bind fun q => q.run? ts

@[simp] theorem run?_nil (p : Position) : p.run? [] = some p := rfl

theorem run?_cons (p : Position) (t : Token) (ts : List Token) :
    p.run? (t :: ts) = (p.step? t).bind fun q => q.run? ts := rfl

theorem run?_append (p : Position) (ts us : List Token) :
    p.run? (ts ++ us) = (p.run? ts).bind fun q => q.run? us := by
  induction ts generalizing p with
  | nil => rfl
  | cons t ts ih =>
    rw [List.cons_append, run?_cons, run?_cons]
    cases p.step? t with
    | none => rfl
    | some q => exact ih q

end Position

/-- The value that a list of tokens writes, if it writes one. -/
def ofTokens? (ts : List Token) : Option Json := (Position.start.run? ts).bind (·.done)

/-- The value that a text writes, if it writes one. -/
def parse? (s : String) : Option Json := (tokens? s.toList).bind ofTokens?

end Vigil.Json
