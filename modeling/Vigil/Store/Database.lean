import Vigil.Store.Rows
import Vigil.Store.Migration

/-!
# The store in a database

Every operation is one statement on a table, or a few; it fails with `query` if
the table does not exist. Deleting an item is one transaction over two tables.
Purging is two statements of their own, so that records may be gone although the
events could not be dropped.
-/

namespace Vigil

namespace Database

/-- A table that must exist. -/
def existing (db : Database) (name : TableName) : Except StoreError Table :=
  match db.table? name with
  | some t => .ok t
  | none => .error .query

/-- A statement that reads a table. -/
def query {α : Type} (name : TableName) (f : Table → Except StoreError α) : Access Database α :=
  .look fun db => (db.existing name).bind f

/-- A statement that changes a table. -/
def execute {α : Type} (name : TableName) (f : Table → Except StoreError (α × Table)) :
    Access Database α :=
  .change fun db => do
    let (a, t) ← f (← db.existing name)
    return (a, db.setTable name (some t))

/-- The first row with a value in a column, if there is one, through `read`. -/
def findRow {α : Type} (column : Nat) (value : Cell) (read : Row → Except StoreError α)
    (t : Table) : Except StoreError (Option α) :=
  (t.select column value).head?.mapM read

/-- The items of a table. Rows that cannot be read are left out: a bad row must
not hide the other items. A cell of the wrong kind is more than a bad row. -/
def readItems (t : Table) : Except StoreError (List Item) :=
  t.rows.foldrM (fun r items => match Item.ofRow r with
    | .ok item => .ok (item :: items)
    | .error .mistyped => .error .mistyped
    | .error _ => .ok items) []

/-- Changes the row of an item that must exist. -/
def modifyItem (id : Uuid) (f : Row → Row) : Access Database Unit :=
  execute .items fun t =>
    if (t.select 0 (.ofUuid id)).isEmpty then .error (.notFound id)
    else .ok ((), t.modify 0 (.ofUuid id) f)

/-- Drops the rows whose time is before a cut-off, and counts them. -/
def dropBefore (name : TableName) (column : Nat) (cutoff : Time) : Access Database Nat :=
  execute name fun t =>
    let kept := t.discard fun r => ((r[column]?.getD Cell.null).order (.ofTime cutoff)).isLT
    .ok (t.rows.length - kept.rows.length, kept)

/-- Removes an item with its history, or neither. -/
def deleteItem (id : Uuid) : Access Database Unit :=
  .change fun db => do
    let history ← db.existing .history
    let items ← db.existing .items
    if (items.select 0 (.ofUuid id)).isEmpty then .error (.notFound id)
    else .ok ((), (db.setTable .history
        (some (history.discard (Table.holds 1 (.ofUuid id))))).setTable .items
        (some (items.discard (Table.holds 0 (.ofUuid id)))))

instance : Store Database where
  get? id := query .items (findRow 0 (.ofUuid id) Item.ofRow)
  items := query .items readItems
  update item := modifyItem item.id (Item.progressRow item.progress)
  reschedule id nextDue lastRun := modifyItem id (Item.scheduleRow nextDue lastRun)
  save item := execute .items fun t => .ok ((), t.replace item.row)
  delete := deleteItem
  appendHistory r := execute .history fun t => .ok ((), t.appendNumbered r.cells)
  history id limit := query .history fun t =>
    (Table.limited limit (Table.newestFirst 2 (t.select 1 (.ofUuid id)))).mapM
      (HistoryRecord.ofRow id)
  appendEvent e := execute .events fun t => .ok ((), t.appendNumbered e.cells)
  recentEvents limit := query .events fun t =>
    (Table.limited limit (Table.newestFirst 1 t.rows)).mapM Event.ofRow
  purgeBefore historyCutoff eventCutoff := do
    let history ← dropBefore .history 2 historyCutoff
    let events ← dropBefore .events 1 eventCutoff
    return history + events

instance : Directory Database where
  nodeName? id := query .nodes <|
    findRow 0 (.ofUuid id) fun r => (r[1]?.getD Cell.null).text?
  markChanged id time := execute .nodes fun t =>
    .ok ((), t.modify 0 (.ofUuid id) fun r => r.set 2 (.ofTime time))

instance : Listing Database where
  leftOut db := ((db.table? .items).map (·.rows) |>.getD []).filterMap fun r =>
    match Item.ofRow r with
    | .ok _ => none
    | .error e => some e

/-- The node with a name; if there is none it is made under the new id. -/
def upsertNode (newId : Uuid) (name : String) : Access Database Uuid :=
  execute .nodes fun t =>
    match (t.select 1 (.text name)).head? with
    | some r => do
      let id ← (r[0]?.getD Cell.null).text?
      return (← StoreError.readUuid id, t)
    | none => .ok (newId, t.append [.ofUuid newId, .text name, .null])

/-- When a node last changed. -/
def nodeChangedAt? (id : Uuid) : Access Database (Option Time) :=
  query .nodes fun t => do
    match (t.select 0 (.ofUuid id)).head? with
    | none => return none
    | some r => (← (r[2]?.getD Cell.null).optionalInteger?).mapM StoreError.ofTimestamp

/-- Whether a value may stand in a column of the rows of a table. -/
def admissible (name : TableName) (t : Table) (column : Column) (index : Nat) (rows : List Row)
    (value : Cell) : Bool :=
  let present := t.select index value
  (column.mayBeNull || value != .null) &&
    (!column.unique || value == .null || (rows.length ≤ 1 && present.all (· ∈ rows))) &&
    (!(name.numbered && index == 0) || match value with
      | .integer _ => true
      | _ => false)

/-- Writes one cell of the rows that have a value in their first column, and
counts the rows. -/
def writeCell (name : TableName) (id : Cell) (column : String) (value : Cell) :
    Access Database Nat :=
  execute name fun t =>
    match name.columns.zipIdx.find? (·.1.name == column) with
    | none => .error .query
    | some (c, index) =>
      let value := value.convert c.affinity
      let rows := t.select 0 id
      if rows.isEmpty || admissible name t c index rows value then
        .ok (rows.length, t.modify 0 id fun r => r.set index value)
      else .error .query

end Database

end Vigil
