import Vigil.Store.Basic

/-!
# Retests

A retest makes an item due at once and forgets what is known about it. It loads
the item and writes it back in a second call of the store, without a claim.
-/

namespace Vigil

/-- Why a retest was not recorded. -/
inductive RetestError where
  | store (e : StoreError)
  /-- The time before `now` lies outside of the times. -/
  | overflow
deriving DecidableEq

namespace Retest

variable {σ : Type} [Store σ]

/-- Loads an item that must exist. -/
def load (id : Uuid) : Access σ Item := do
  match ← Store.get? id with
  | some item => return item
  | none => throw (.notFound id)

/-- Retests one item. -/
def one (id : Uuid) (now : Time) (s : σ) : Except RetestError Unit × σ :=
  match (load id : Access σ _) s with
  | (.error e, t) => (.error (.store e), t)
  | (.ok item, t) =>
    match item.forRetest? now with
    | none => (.error .overflow, t)
    | some item =>
      match (Store.update item : Access σ _) t with
      | (.error e, t) => (.error (.store e), t)
      | (.ok (), t) => (.ok (), t)

/-- Whether `all` resets an item. -/
def isPending (item : Item) : Bool := item.progress.state != .normal

/-- Writes items that were loaded as a retest leaves them, and counts those that
were written. -/
def writeAll (now : Time) : List Item → Nat → σ → Option Nat × σ
  | [], count, s => (some count, s)
  | item :: items, count, s =>
    match item.forRetest? now with
    | none => (none, s)
    | some item =>
      match (Store.update item : Access σ _) s with
      | (.ok (), s) => writeAll now items (count + 1) s
      | (.error _, s) => writeAll now items count s

/-- Retests every item that is not in normal health, and counts the items. -/
def all (now : Time) (s : σ) : Except RetestError Nat × σ :=
  match (Store.items : Access σ _) s with
  | (.error e, s) => (.error (.store e), s)
  | (.ok items, s) =>
    match writeAll now (items.filter isPending) 0 s with
    | (some count, s) => (.ok count, s)
    | (none, s) => (.error .overflow, s)

end Retest

end Vigil
