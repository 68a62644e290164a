import Vigil.Store.Faulty
import Vigil.Check.Dispatch
import Vigil.Record.ResultFile

/-!
# A world under observation

The engine runs in a world of its own: a store that can be made to fail, files,
an exporter, and a list of the nodes that were marked as changed.
-/

namespace Vigil

/-- An exporter of a simulation. -/
inductive ExporterKind where
  | absent
  /-- Keeps every snapshot. -/
  | keeping
  /-- Keeps every snapshot, and then fails. -/
  | broken
  /-- Keeps every snapshot, and appends it to a file. -/
  | file (path : String)
deriving DecidableEq

/-- What the engine works on. -/
structure World (σ : Type) where
  store : FaultyStore σ
  files : FileTree
  exporter : ExporterKind
  /-- The snapshots that were handed over, the oldest first. -/
  snapshots : List Snapshot
  /-- The nodes that were marked, the oldest mark first. -/
  marked : List Uuid

namespace World

variable {σ : Type}

/-- A world around a store in which nothing has happened yet. -/
def start (store : σ) (files : FileTree) (exporter : ExporterKind) : World σ :=
  ⟨.ofStore store, files, exporter, [], []⟩

/-- An operation on the store of a world. -/
def onStore {α : Type} (a : Access (FaultyStore σ) α) : Access (World σ) α :=
  a.zoom World.store fun store w => { w with store }

instance [Store σ] : Store (World σ) where
  get? id := onStore (Store.get? id)
  items := onStore Store.items
  update i := onStore (Store.update i)
  reschedule id nextDue lastRun := onStore (Store.reschedule id nextDue lastRun)
  save i := onStore (Store.save i)
  delete id := onStore (Store.delete id)
  appendHistory r := onStore (Store.appendHistory r)
  history id limit := onStore (Store.history id limit)
  appendEvent e := onStore (Store.appendEvent e)
  recentEvents limit := onStore (Store.recentEvents limit)
  purgeBefore history events := onStore (Store.purgeBefore history events)

instance [Directory σ] : Directory (World σ) where
  nodeName? id := onStore (Directory.nodeName? id)
  markChanged id time := fun w =>
    let w := if w.store.fails (.markChanged id) then w else { w with marked := w.marked ++ [id] }
    (onStore (Directory.markChanged id time) : Access (World σ) Unit) w

instance [Listing σ] : Listing (World σ) := ⟨fun w => Listing.leftOut w.store⟩

instance : Exporter (World σ) where
  accept x w :=
    let kept := { w with snapshots := w.snapshots ++ [x] }
    match w.exporter with
    | .absent => (.ok (), w)
    | .keeping => (.ok (), kept)
    | .broken => (.error .missing, kept)
    | .file path =>
      match ResultFile.append path x w.files with
      | .ok files => (.ok (), { kept with files })
      | .error e => (.error e, kept)

end World

end Vigil
