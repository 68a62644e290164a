import Vigil.Store.Basic

/-!
# A store that fails at will

A faulty store stands in front of another one and lets chosen calls fail. It can
also run operations on the other store after the next listing of its items, so
that they come between a listing and what is done with it.
-/

namespace Vigil

/-- A call of a store or a directory, by what it is about. -/
inductive StoreCall where
  | get (id : Uuid)
  | items
  | update (id : Uuid)
  | reschedule (id : Uuid)
  | save (id : Uuid)
  | delete (id : Uuid)
  | appendHistory (id : Uuid)
  | history (id : Uuid)
  | appendEvent (subject : Uuid)
  | recentEvents
  | purgeBefore
  | nodeName (id : Uuid)
  | markChanged (id : Uuid)
deriving DecidableEq, Repr

/-- The name of the operation that is called. -/
def StoreCall.operation : StoreCall → String
  | get _ => "get_item"
  | items => "for_each_item"
  | update _ => "update_item"
  | reschedule _ => "reschedule"
  | save _ => "save_item"
  | delete _ => "delete_item"
  | appendHistory _ => "append_history"
  | history _ => "history"
  | appendEvent _ => "append_event_log"
  | recentEvents => "recent_events"
  | purgeBefore => "purge_before"
  | nodeName _ => "node_name"
  | markChanged _ => "mark_changed"

namespace Access

variable {σ τ α : Type}

/-- An operation on a part of a state. -/
def zoom (get : τ → σ) (set : σ → τ → τ) (a : Access σ α) : Access τ α := fun t =>
  let (r, s) := a (get t)
  (r, set s t)

end Access

/-- A store in front of another one. -/
structure FaultyStore (σ : Type) where
  inner : σ
  fails : StoreCall → Bool
  /-- What is done after the next listing, in order. -/
  afterItems : List (Access σ Unit)

namespace FaultyStore

variable {σ α : Type}

/-- A faulty store that never fails. -/
def ofStore (s : σ) : FaultyStore σ := ⟨s, fun _ => false, []⟩

/-- Lets exactly the named operations fail. -/
def failing (s : FaultyStore σ) (operations : List String) : FaultyStore σ :=
  { s with fails := fun c => operations.contains c.operation }

/-- An operation on the store behind. -/
def behind (a : Access σ α) : Access (FaultyStore σ) α :=
  a.zoom FaultyStore.inner fun inner s => { s with inner }

/-- A call that fails if it is to. -/
def guarded (c : StoreCall) (a : Access (FaultyStore σ) α) : Access (FaultyStore σ) α := fun s =>
  if s.fails c then (.error (.unavailable ("injected: " ++ c.operation)), s) else a s

/-- Does what is to be done after a listing. It stops at the first failure, and
nothing is done a second time. -/
def runAfterItems : Access (FaultyStore σ) Unit := fun s =>
  (behind (s.afterItems.forM id) : Access (FaultyStore σ) Unit) { s with afterItems := [] }

instance [Store σ] : Store (FaultyStore σ) where
  get? id := guarded (.get id) (behind (Store.get? id))
  items := guarded .items do
    let items ← behind Store.items
    runAfterItems
    return items
  update i := guarded (.update i.id) (behind (Store.update i))
  reschedule id nextDue lastRun :=
    guarded (.reschedule id) (behind (Store.reschedule id nextDue lastRun))
  save i := guarded (.save i.id) (behind (Store.save i))
  delete id := guarded (.delete id) (behind (Store.delete id))
  appendHistory r := guarded (.appendHistory r.item) (behind (Store.appendHistory r))
  history id limit := guarded (.history id) (behind (Store.history id limit))
  appendEvent e := guarded (.appendEvent e.subject) (behind (Store.appendEvent e))
  recentEvents limit := guarded .recentEvents (behind (Store.recentEvents limit))
  purgeBefore history events := guarded .purgeBefore (behind (Store.purgeBefore history events))

instance [Directory σ] : Directory (FaultyStore σ) where
  nodeName? id := guarded (.nodeName id) (behind (Directory.nodeName? id))
  markChanged id time := guarded (.markChanged id) (behind (Directory.markChanged id time))

instance [Listing σ] : Listing (FaultyStore σ) := ⟨fun s => Listing.leftOut s.inner⟩

end FaultyStore

end Vigil
