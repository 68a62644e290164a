import Vigil.Record.Basic

/-!
# Stores

A store keeps items, their history and the events; a directory knows the nodes
that items belong to. Every operation is one step on the state of the store, and
a step that fails may still have changed it. The two stores of the program are
instances of the classes here.
-/

namespace Vigil

/-- Why stored data cannot be used. -/
inductive Corruption where
  /-- An identifier or readings that cannot be read. -/
  | unreadable
  /-- A word in a column that is none of its words. -/
  | word (column : String) (reason : Unrecognised)
  /-- Milliseconds that are outside of the times. -/
  | timestamp (millis : Int)
deriving DecidableEq, Repr

/-- Why an operation on a store fails. -/
inductive StoreError where
  /-- A statement could not be executed. -/
  | query
  | notFound (id : Uuid)
  | corrupt (reason : Corruption)
  | unavailable (reason : String)
  /-- A cell holds a value of a kind that its column never holds. -/
  | mistyped
deriving DecidableEq, Repr

/-- The text of an error, where it does not depend on the database. -/
def StoreError.message? : StoreError → Option String
  | query => none
  | notFound id => some ("Item not found: " ++ id.text)
  | corrupt .unreadable => none
  | corrupt (.word column reason) =>
    some ("Stored data is corrupt: " ++ column ++ ": " ++ reason.message)
  | corrupt (.timestamp millis) =>
    some ("Stored data is corrupt: timestamp out of range: " ++ toString millis)
  | unavailable reason => some ("Store unavailable: " ++ reason)
  | mistyped => none

/-- An operation on a store with states in `σ`. -/
abbrev Access (σ α : Type) := ExceptT StoreError (StateM σ) α

namespace Access

variable {σ α : Type}

/-- An operation that only looks. -/
def look (f : σ → Except StoreError α) : Access σ α := fun s => (f s, s)

/-- An operation that changes the state, or fails and leaves it as it is. -/
def change (f : σ → Except StoreError (α × σ)) : Access σ α := fun s =>
  match f s with
  | .ok (a, t) => (.ok a, t)
  | .error e => (.error e, s)

/-- A change that fails leaves no trace. -/
theorem change_of_error {f : σ → Except StoreError (α × σ)} {s : σ} {e : StoreError}
    (h : f s = .error e) : change f s = (.error e, s) := by
  simp [change, h]

theorem change_of_ok {f : σ → Except StoreError (α × σ)} {s t : σ} {a : α}
    (h : f s = .ok (a, t)) : change f s = (.ok a, t) := by
  simp [change, h]

end Access

/-- What is kept for the polling of items. -/
class Store (σ : Type) where
  get? : Uuid → Access σ (Option Item)
  /-- All items, in the order in which they are stored. -/
  items : Access σ (List Item)
  /-- Writes the progress of an existing item; its settings stay. -/
  update : Item → Access σ Unit
  /-- Writes only when an existing item is due and when it last ran. -/
  reschedule : Uuid → Time → Option Time → Access σ Unit
  /-- Adds an item, or replaces all of an existing one. -/
  save : Item → Access σ Unit
  /-- Removes an item and its history. -/
  delete : Uuid → Access σ Unit
  appendHistory : HistoryRecord → Access σ Unit
  /-- The newest records of an item, the newest first. -/
  history : Uuid → Nat → Access σ (List HistoryRecord)
  appendEvent : Event → Access σ Unit
  /-- The newest events, the newest first. -/
  recentEvents : Nat → Access σ (List Event)
  /-- Drops the records before the first time and the events before the second,
  and counts what it dropped. -/
  purgeBefore : Time → Time → Access σ Nat

/-- What keeps items from being listed. -/
class Listing (σ : Type) where
  /-- What is wrong with the stored items that a listing leaves out. -/
  leftOut : σ → List StoreError

/-- What is known about nodes. -/
class Directory (σ : Type) where
  nodeName? : Uuid → Access σ (Option String)
  /-- Notes that a node changed at a time; unknown nodes are passed over. -/
  markChanged : Uuid → Time → Access σ Unit

end Vigil
