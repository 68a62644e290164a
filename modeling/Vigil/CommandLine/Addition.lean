import Vigil.CommandLine.Invocation
import Vigil.Item.Validation
import Vigil.Store.Database

/-!
# Adding an item

An item is added in three steps: its node is looked up or made, the item is
checked, and then it is saved. A step that fails leaves what the steps before it
did.
-/

namespace Vigil.CommandLine

/-- Why an item was not added. -/
inductive AdditionError where
  | invalid (e : ItemError)
  | store (e : StoreError)
deriving DecidableEq

namespace NewItem

/-- The item as it is before its first check, which is due at `now`. -/
def toItem (n : NewItem) (id node : Uuid) (now : Time) : Item where
  id := id
  settings := { Settings.standard node n.name n.probe n.target with
    intervalSeconds := n.intervalSeconds
    timeoutSeconds := n.timeoutSeconds
    retry := n.retry
    level := n.level
    logMode := n.logMode
    script := n.script }
  progress := .fresh now

/-- Adds an item under an id; `nodeId` is for the node, if it has to be made. -/
def addTo (n : NewItem) (nodeId id : Uuid) (now : Time) (db : Database) :
    Except AdditionError Item × Database :=
  match Database.upsertNode nodeId n.node db with
  | (.error e, db) => (.error (.store e), db)
  | (.ok node, db) =>
    let item := n.toItem id node now
    match Validation.checkItem item.settings with
    | .error e => (.error (.invalid e), db)
    | .ok () =>
      match (Store.save item : Access Database Unit) db with
      | (.error e, db) => (.error (.store e), db)
      | (.ok (), db) => (.ok item, db)

end NewItem

end Vigil.CommandLine
