import Vigil.Simulation.Bench
import Vigil.Store.Memory

/-!
# Watching a bench

A watch follows a bench over a store in memory from one look to the next. Each
look tells what is new: what was reported and recorded in the meantime, and which
items do not show as they did.
-/

namespace Vigil

/-- What was seen last of an item that is followed. -/
structure Followed where
  id : Uuid
  item : Option Item
  /-- How many of its records were seen, if they are followed too. -/
  records : Option Nat

/-- What an observer of a bench has seen. -/
structure Watch where
  /-- The items that are followed, in the order of their ids. -/
  items : List Followed
  reports : Nat
  events : Nat
  marks : Nat
  snapshots : Nat

/-- What is new on a bench. -/
structure News where
  reports : List Report
  events : List Event
  marks : List Uuid
  snapshots : List Snapshot
  history : List HistoryRecord
  /-- The items that changed; `none` if an item is gone. -/
  items : List (Uuid × Option Item)
  /-- The followed items with a dispatch in flight. -/
  flying : List Uuid

namespace Watch

/-- A watch that follows nothing and has seen nothing. -/
def start : Watch := ⟨[], 0, 0, 0, 0⟩

/-- Sorts by the items that entries are about, and keeps the order in time. -/
def byItem {α : Type} (key : α → Uuid) (xs : List α) : List α :=
  xs.mergeSort fun a b => (compare (key a) (key b)).isLE

/-- Follows an item, with its records or without them, from when it is first seen. -/
def follow (w : Watch) (id : Uuid) (withRecords : Bool) : Watch :=
  let records := if withRecords then some 0 else none
  if w.items.any (·.id == id) then
    { w with items := w.items.map fun f =>
        if f.id == id then { f with records := f.records <|> records } else f }
  else { w with items := byItem Followed.id (w.items ++ [⟨id, none, records⟩]) }

/-- What is new since the last look, and the watch after this one. Items are as
they were if `view` gives the same text. -/
def look {ω : Type} (view : Item → String) (w : Watch) (b : Bench MemoryStore ω) : News × Watch :=
  let world := b.shared.world
  let store := world.store.inner
  let recordsOf (id : Uuid) := store.records.filter (·.item == id)
  let news : News := {
    reports := byItem Report.item (b.reports.drop w.reports)
    events := byItem Event.subject (store.eventLog.drop w.events)
    marks := world.marked.drop w.marks
    snapshots := byItem Snapshot.item (world.snapshots.drop w.snapshots)
    history := w.items.flatMap fun f => match f.records with
      | some seen => (recordsOf f.id).drop seen
      | none => []
    items := w.items.filterMap fun f =>
      let now := store.itemMap[f.id]?
      if f.item.map view = now.map view then none else some (f.id, now)
    flying := (w.items.map (·.id)).filter b.shared.claims.holds }
  (news, {
    items := w.items.map fun f => { f with
      item := store.itemMap[f.id]?
      records := f.records.map fun _ => (recordsOf f.id).length }
    reports := b.reports.length
    events := store.eventLog.length
    marks := world.marked.length
    snapshots := world.snapshots.length })

end Watch

end Vigil
