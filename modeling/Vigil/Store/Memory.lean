import Std.Data.ExtTreeMap
import Vigil.Store.Basic

/-!
# The store in memory

Items and nodes are finite maps, history and events are lists in the order in
which they were appended. The items are visited in no particular order. The store
can be switched off, and then every operation fails.
-/

namespace Vigil

/-- A node that items belong to. -/
structure Node where
  name : String
  changedAt : Option Time
deriving DecidableEq, Inhabited

/-- The order in which items are visited, which can be any. -/
structure Visiting where
  /-- The items in the order in which they are visited, from their order by id. -/
  arrange : List Item → List Item
  perm : ∀ items, (arrange items).Perm items

/-- Items are visited in the order of their ids. -/
def Visiting.byId : Visiting := ⟨id, List.Perm.refl⟩

/-- The store in memory. -/
structure MemoryStore where
  itemMap : Std.ExtTreeMap Uuid Item
  visiting : Visiting
  /-- The oldest record first. -/
  records : List HistoryRecord
  /-- The oldest event first. -/
  eventLog : List Event
  nodes : Std.ExtTreeMap Uuid Node
  switchedOff : Bool
  /-- Every item is stored under its own id. -/
  keyed : ∀ {id : Uuid} {item : Item}, itemMap[id]? = some item → item.id = id

namespace MemoryStore

/-- A store without anything. -/
def empty (visiting : Visiting := .byId) : MemoryStore := ⟨∅, visiting, [], [], ∅, false, by simp⟩

instance : Inhabited MemoryStore := ⟨empty⟩

/-- The items of a store, in the order in which they are visited. -/
def itemList (s : MemoryStore) : List Item := s.visiting.arrange (s.itemMap.toList.map (·.2))

/-- The store with an item in the place of the one with its id, if there is one. -/
def put (s : MemoryStore) (item : Item) : MemoryStore where
  itemMap := s.itemMap.insert item.id item
  visiting := s.visiting
  records := s.records
  eventLog := s.eventLog
  nodes := s.nodes
  switchedOff := s.switchedOff
  keyed := by
    intro id other h
    rw [Std.ExtTreeMap.getElem?_insert] at h
    split at h
    · next heq =>
      rw [← Option.some.inj h]
      exact Std.LawfulEqOrd.eq_of_compare heq
    · exact s.keyed h

/-- The store without an item and its history. -/
def drop (s : MemoryStore) (id : Uuid) : MemoryStore where
  itemMap := s.itemMap.erase id
  visiting := s.visiting
  records := s.records.filter (·.item != id)
  eventLog := s.eventLog
  nodes := s.nodes
  switchedOff := s.switchedOff
  keyed := by
    intro other item h
    rw [Std.ExtTreeMap.getElem?_erase] at h
    split at h
    · simp at h
    · exact s.keyed h

/-- An operation on a store that is not switched off. -/
def whenOn {α : Type} (f : MemoryStore → Except StoreError (α × MemoryStore)) :
    Access MemoryStore α :=
  .change fun s => if s.switchedOff then .error (.unavailable "memory store switched off") else f s

/-- Changes the progress of an item that must exist. -/
def modifyItem (id : Uuid) (f : Progress → Progress) : Access MemoryStore Unit :=
  whenOn fun s =>
    match s.itemMap[id]? with
    | none => .error (.notFound id)
    | some item => .ok ((), s.put { item with progress := f item.progress })

instance : Store MemoryStore where
  get? id := whenOn fun s => .ok (s.itemMap[id]?, s)
  items := whenOn fun s => .ok (s.itemList, s)
  update item := modifyItem item.id fun _ => item.progress
  reschedule id nextDue lastRun := modifyItem id fun progress => { progress with nextDue, lastRun }
  save item := whenOn fun s => .ok ((), s.put item)
  delete id := whenOn fun s =>
    if s.itemMap.contains id then .ok ((), s.drop id) else .error (.notFound id)
  appendHistory r := whenOn fun s => .ok ((), { s with records := s.records ++ [r] })
  history id limit := whenOn fun s =>
    .ok ((s.records.reverse.filter (·.item == id)).take limit, s)
  appendEvent e := whenOn fun s => .ok ((), { s with eventLog := s.eventLog ++ [e] })
  recentEvents limit := whenOn fun s => .ok (s.eventLog.reverse.take limit, s)
  purgeBefore historyCutoff eventCutoff := whenOn fun s =>
    let records := s.records.filter fun r => decide (historyCutoff ≤ r.time)
    let eventLog := s.eventLog.filter fun e => decide (eventCutoff ≤ e.time)
    .ok (s.records.length + s.eventLog.length - records.length - eventLog.length,
      { s with records, eventLog })

instance : Directory MemoryStore where
  nodeName? id := whenOn fun s => .ok ((s.nodes[id]?).map (·.name), s)
  markChanged id time := whenOn fun s =>
    match s.nodes[id]? with
    | none => .ok ((), s)
    | some node =>
      .ok ((), { s with nodes := s.nodes.insert id { node with changedAt := some time } })

instance : Listing MemoryStore := ⟨fun _ => []⟩

/-- Adds a node under a new id. -/
def addNode (s : MemoryStore) (id : Uuid) (name : String) : MemoryStore :=
  { s with nodes := s.nodes.insert id ⟨name, none⟩ }

/-- When a node last changed. -/
def nodeChangedAt? (s : MemoryStore) (id : Uuid) : Option Time :=
  (s.nodes[id]?).bind (·.changedAt)

end MemoryStore

end Vigil
