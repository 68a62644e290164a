import Vigil.CommandLine.Addition
import Vigil.Proofs.Store.Connection
import Vigil.Proofs.Store.ReadBack
import Vigil.Proofs.Time.Instant

/-!
# Additions that fail

An item is added by up to three statements: its node is looked for, it is made if there is none,
and the item is saved. Before it is saved it is checked. The statements are in no transaction, so
an addition that fails leaves everything as it was unless the node has already been made
(`Connection.MakesNode`): then the node stays, although there is no item for it. An addition that
succeeds adds the item, and its node if there was none, and nothing else (`Added`).
-/

namespace Vigil

open StoreError

/-! ### Nodes -/

namespace Database

/-- A node that was never changed. -/
def nodeRow (id : Uuid) (name : String) : Row := [.ofUuid id, .text name, .null]

/-- The id in the row of a node. -/
def nodeId (r : Row) : Except StoreError Uuid := do
  readUuid (← (r[0]?.getD Cell.null).text?)

/-- The statement that looks for a node. -/
def findNode (name : String) : Access Database (Option Row) :=
  query .nodes fun t => .ok (t.select 1 (.text name)).head?

/-- The statement that makes a node. -/
def insertNode (id : Uuid) (name : String) : Access Database Unit :=
  execute .nodes fun t => .ok ((), t.append (nodeRow id name))

end Database

namespace Connection

/-- The id of the node with a name, which is made if there is none. -/
def upsertNode (newId : Uuid) (name : String) : Access Connection Uuid := do
  signal
  match ← call (Database.findNode name) with
  | some r => .look fun _ => Database.nodeId r
  | none =>
    call (Database.insertNode newId name)
    return newId

end Connection

namespace Database

variable {db : Database} {t : Table} {name : String}

theorem nodeId_nodeRow (id : Uuid) (name : String) : nodeId (nodeRow id name) = .ok id :=
  readUuid_text id

theorem select_append_nodeRow (h : t.select 1 (.text name) = []) (id : Uuid) :
    (t.append (nodeRow id name)).select 1 (.text name) = [nodeRow id name] := by
  have hself : Table.holds 1 (.text name) (nodeRow id name) = true := by
    simp [Table.holds, nodeRow]
  rw [Table.select, Table.append, List.filter_append, List.filter_cons_of_pos hself]
  exact congrArg (· ++ [nodeRow id name]) h

theorem findNode_of_missing (h : db.table? .nodes = none) :
    findNode name db = (.error .query, db) := by
  simp only [findNode, query, Access.look, existing, h, Except.bind]

theorem findNode_of_table? (h : db.table? .nodes = some t) :
    findNode name db = (.ok (t.select 1 (.text name)).head?, db) :=
  query_of_table? _ h

theorem insertNode_of_table? (h : db.table? .nodes = some t) (id : Uuid) :
    insertNode id name db = (.ok (), { db with nodes := some (t.append (nodeRow id name)) }) :=
  execute_of_ok h rfl

/-- The look and the insertion come to the same as one statement that does both. -/
theorem upsertNode_eq (newId : Uuid) (name : String) :
    upsertNode newId name = (do
      match ← findNode name with
      | some r => .look fun _ => nodeId r
      | none =>
        insertNode newId name
        return newId : Access Database Uuid) := by
  funext db
  cases hnodes : db.table? .nodes with
  | none =>
      rw [Access.bind_of_error (findNode_of_missing hnodes)]
      exact execute_of_missing hnodes _
  | some t =>
      rw [Access.bind_of_ok (findNode_of_table? hnodes)]
      cases hselect : (t.select 1 (.text name)).head? with
      | none =>
          dsimp only
          rw [Access.bind_of_ok (insertNode_of_table? hnodes newId)]
          exact execute_of_ok hnodes (by rw [hselect]; rfl)
      | some r =>
          have hread : (do
              let id ← (r[0]?.getD Cell.null).text?
              return (← readUuid id, t) : Except StoreError (Uuid × Table)) =
              (nodeId r).map fun id => (id, t) := by
            cases htext : (r[0]?.getD Cell.null).text? with
            | error e => simp [nodeId, htext, bind, Except.bind, Except.map]
            | ok id =>
                cases hid : readUuid id <;>
                  simp [nodeId, htext, hid, bind, Except.bind, Except.map, pure, Except.pure]
          simp only [Access.look]
          cases hid : nodeId r with
          | ok id =>
              rw [hid] at hread
              have hsame : db.setTable .nodes (some t) = db := setTable_of_table? hnodes
              exact (execute_of_ok hnodes (by rw [hselect]; exact hread)).trans
                (congrArg (Except.ok id, ·) hsame)
          | error e =>
              rw [hid] at hread
              exact execute_of_error hnodes (by rw [hselect]; exact hread)

end Database

namespace Connection

variable {c d : Connection} {newId : Uuid} {name : String}

/-- Adding an item makes its node: there is none with the name, and no call fails up to the one
that makes it. -/
structure MakesNode (c : Connection) (name : String) : Prop where
  taken : c.fault? = none
  looked : c.next.fault? = none
  made : c.next.next.fault? = none
  unknown : ∃ t, c.db.nodes = some t ∧ t.select 1 (.text name) = []

theorem not_makesNode_of_select {t : Table} {r : Row} {rest : List Row}
    (hnodes : c.db.nodes = some t) (hselect : t.select 1 (.text name) = r :: rest) :
    ¬c.MakesNode name := by
  intro h
  obtain ⟨t', ht', hnone⟩ := h.unknown
  obtain rfl := Option.some.inj (hnodes.symm.trans ht')
  cases hselect.symm.trans hnone

/-- A node is looked for by a statement of its own, and what follows depends on what is found. -/
theorem upsertNode_eq (newId : Uuid) (name : String) :
    upsertNode newId name = (do
      match ← single (Database.findNode name) with
      | some r => .look fun _ => Database.nodeId r
      | none =>
        call (Database.insertNode newId name)
        return newId : Access Connection Uuid) :=
  (bind_assoc signal (fun _ => call (Database.findNode name)) _).symm

/-- Either nothing is changed, because a call fails or the node is there, or the node is made. -/
theorem upsertNode_cases (c : Connection) (newId : Uuid) (name : String) :
    (∃ e d, upsertNode newId name c = (.error e, d) ∧ d.db = c.db ∧ ¬c.MakesNode name) ∨
    (∃ t r rest id d, upsertNode newId name c = (.ok id, d) ∧ d.db = c.db ∧
      c.db.nodes = some t ∧ t.select 1 (.text name) = r :: rest ∧ Database.nodeId r = .ok id) ∨
    ∃ t d, upsertNode newId name c = (.ok newId, d) ∧ c.MakesNode name ∧ c.db.nodes = some t ∧
      d.db = { c.db with nodes := some (t.append (Database.nodeRow newId name)) } := by
  rw [upsertNode_eq]
  rcases single_cases (Database.findNode name) c with
    ⟨e, d, hlook, hdb, hfault⟩ | ⟨htaken, hlooked, hlook⟩
  · refine .inl ⟨e, d, Access.bind_of_error hlook, hdb, fun h => ?_⟩
    exact hfault.elim (absurd h.taken) (absurd h.looked)
  cases hnodes : c.db.table? .nodes with
  | none =>
      rw [Database.findNode_of_missing hnodes] at hlook
      refine .inl ⟨_, _, Access.bind_of_error hlook, rfl, fun h => ?_⟩
      obtain ⟨t, ht, -⟩ := h.unknown
      cases hnodes.symm.trans ht
  | some t =>
      rw [Database.findNode_of_table? hnodes] at hlook
      rw [Access.bind_of_ok hlook]
      cases hselect : t.select 1 (.text name) with
      | cons r rest =>
          have hknown : ¬c.MakesNode name := not_makesNode_of_select hnodes hselect
          cases hid : Database.nodeId r with
          | error e => exact .inl ⟨e, _, congrArg (·, _) hid, rfl, hknown⟩
          | ok id =>
              exact .inr (.inl ⟨t, r, rest, id, _, congrArg (·, _) hid, rfl, hnodes, hselect, hid⟩)
      | nil =>
          cases hmade : c.next.next.fault? with
          | some e =>
              refine .inl ⟨e, _, Access.bind_of_error (call_of_fault hmade), rfl, fun h => ?_⟩
              cases h.made.symm.trans hmade
          | none =>
              have hmake := call_of_no_fault (b := Database.insertNode newId name) hmade
              have hinserted : Database.insertNode newId name c.next.next.db = _ :=
                Database.insertNode_of_table? hnodes newId
              rw [hinserted] at hmake
              exact .inr (.inr ⟨t, _, Access.bind_of_ok hmake,
                ⟨htaken, hlooked, hmade, t, hnodes, hselect⟩, hnodes, rfl⟩)

theorem performs_upsertNode (newId : Uuid) (name : String) :
    Performs (upsertNode newId name) (Database.upsertNode newId name) := by
  rw [Database.upsertNode_eq]
  refine Performs.signal_bind ((performs_call _).bind fun r => ?_)
  cases r with
  | some r => exact fun _ => rfl
  | none => exact (performs_call _).bind fun _ _ => rfl

end Connection

/-! ### Additions -/

namespace CommandLine

namespace NewItem

/-- Adds an item over a connection whose calls may fail. -/
def addOver (n : NewItem) (nodeId id : Uuid) (now : Time) (c : Connection) :
    Except AdditionError Item × Connection :=
  match Connection.upsertNode nodeId n.node c with
  | (.error e, c) => (.error (.store e), c)
  | (.ok node, c) =>
    let item := n.toItem id node now
    match Validation.checkItem item.settings with
    | .error e => (.error (.invalid e), c)
    | .ok () =>
      match (Store.save item : Access Connection Unit) c with
      | (.error e, c) => (.error (.store e), c)
      | (.ok (), c) => (.ok item, c)

variable {n : NewItem} {nodeId id : Uuid} {now : Time}

/-- If no call fails, the item is added as it is to the database. -/
theorem addOver_of_no_faults (n : NewItem) (nodeId id : Uuid) (now : Time) (db : Database) :
    n.addOver nodeId id now ⟨db, []⟩ =
      ((n.addTo nodeId id now db).1, ⟨(n.addTo nodeId id now db).2, []⟩) := by
  have hnode := Connection.performs_upsertNode nodeId n.node db
  have hsave (item : Item) (db : Database) :
      (Store.save item : Access Connection Unit) ⟨db, []⟩ = _ :=
    Connection.performs_single (Store.save item) db
  unfold addOver addTo
  cases hmade : Database.upsertNode nodeId n.node db with
  | mk made after =>
      rw [hnode, hmade]
      cases made with
      | error e => rfl
      | ok node =>
          dsimp only
          cases Validation.checkItem (n.toItem id node now).settings with
          | error e => rfl
          | ok _ =>
              dsimp only
              rw [hsave]
              cases (Store.save (n.toItem id node now) : Access Database Unit) after with
              | mk saved after => cases saved <;> rfl

end NewItem

/-- An item was added to a database, with its node if there was none. -/
structure Added (n : NewItem) (id : Uuid) (now : Time) (item : Item) (before after : Database) :
    Prop where
  /-- The item is as it was described, enabled, due at once, and with nothing known about it. -/
  item_eq : item =
    { id := id
      settings :=
        { node := item.settings.node
          name := n.name
          probe := n.probe
          target := n.target
          params := ""
          mode := ""
          script := n.script
          intervalSeconds := n.intervalSeconds
          timeoutSeconds := n.timeoutSeconds
          retry := n.retry
          level := n.level
          logMode := n.logMode
          enabled := true }
      progress := { nextDue := now, lastRun := none, readings := .empty, state := .unknown } }
  accepted : Validation.checkItem item.settings = .ok ()
  /-- It has a row of its own, and all other rows of items are as they were. -/
  items : ∃ t, before.items = some t ∧ after.items = some (t.append item.row)
  /-- From its row it is read as it was described, and as due at the start of a millisecond. -/
  read : now.IsPlain →
    Item.ofRow item.row = .ok { item with progress := item.progress.floorMillis }
  /-- It belongs to the one node with the name. -/
  owner : ∃ t r, after.nodes = some t ∧ t.select 1 (.text n.node) = [r] ∧
    Database.nodeId r = .ok item.settings.node
  /-- All nodes are as they were, or there was none with the name and now there is. -/
  nodes : after.nodes = before.nodes ∨ ∃ t, before.nodes = some t ∧
    t.select 1 (.text n.node) = [] ∧
    after.nodes = some (t.append (Database.nodeRow item.settings.node n.node))
  /-- Nothing else is changed. -/
  others : after = { before with nodes := after.nodes, items := after.items }

namespace NewItem

variable {n : NewItem} {nodeId id : Uuid} {now : Time} {c d : Connection}

theorem ofRow_row_toItem (n : NewItem) (id node : Uuid) (hnow : now.IsPlain) :
    Item.ofRow (n.toItem id node now).row =
      .ok { n.toItem id node now with
        progress := (n.toItem id node now).progress.floorMillis } := by
  have hnone : (n.toItem id node now).progress.readings.floats = [] := rfl
  have hread : (n.toItem id node now).progress.reread =
      .ok (n.toItem id node now).progress.floorMillis := by
    refine (Progress.reread_floorMillis_iff ?_).2 ⟨hnow, ?_, ?_⟩
    · simp [hnone]
    · simp [toItem, Progress.fresh]
    · simp [hnone]
  rw [Item.ofRow_row_eq, hread]
  rfl

end NewItem

end CommandLine

namespace Connection

variable {c d : Connection}

/-- An item is saved, or nothing is changed. -/
theorem save_cases (item : Item) (c : Connection) :
    (∃ e d, (Store.save item : Access Connection Unit) c = (.error e, d) ∧ d.db = c.db) ∨
    ∃ t d, (Store.save item : Access Connection Unit) c = (.ok (), d) ∧ c.db.items = some t ∧
      d.db = { c.db with items := some (t.replace item.row) } := by
  rcases single_cases (Store.save item) c with ⟨e, d, hsave, hdb, -⟩ | ⟨-, -, hsave⟩
  · exact .inl ⟨e, d, hsave, hdb⟩
  cases hitems : c.db.table? .items with
  | none =>
      have hmissing : (Store.save item : Access Database Unit) c.db = _ :=
        Database.execute_of_missing hitems _
      rw [hmissing] at hsave
      exact .inl ⟨_, _, hsave, rfl⟩
  | some t =>
      have hreplaced : (Store.save item : Access Database Unit) c.db = _ :=
        Database.execute_of_ok hitems rfl
      rw [hreplaced] at hsave
      exact .inr ⟨t, _, hsave, hitems, rfl⟩

end Connection

namespace CommandLine.NewItem

variable {n : NewItem} {nodeId id node : Uuid} {now : Time} {c c₁ d : Connection}
  {r : Except AdditionError Item}

/-- When the node is there, the item is saved or nothing is changed any more. -/
theorem addOver_of_node (hnode : Connection.upsertNode nodeId n.node c = (.ok node, c₁))
    (h : n.addOver nodeId id now c = (r, d)) :
    (∃ e, r = .error e ∧ d.db = c₁.db) ∨
    r = .ok (n.toItem id node now) ∧
      Validation.checkItem (n.toItem id node now).settings = .ok () ∧
      ∃ t, c₁.db.items = some t ∧
        d.db = { c₁.db with items := some (t.replace (n.toItem id node now).row) } := by
  rw [addOver, hnode] at h
  dsimp only at h
  cases hcheck : Validation.checkItem (n.toItem id node now).settings with
  | error e =>
      rw [hcheck] at h
      obtain ⟨rfl, rfl⟩ := Prod.mk.inj h
      exact .inl ⟨_, rfl, rfl⟩
  | ok _ =>
      rw [hcheck] at h
      dsimp only at h
      rcases Connection.save_cases (n.toItem id node now) c₁ with
        ⟨e, after, hsave, hdb⟩ | ⟨t, after, hsave, hitems, hdb⟩
      · rw [hsave] at h
        obtain ⟨rfl, rfl⟩ := Prod.mk.inj h
        exact .inl ⟨_, rfl, hdb⟩
      · rw [hsave] at h
        obtain ⟨rfl, rfl⟩ := Prod.mk.inj h
        exact .inr ⟨rfl, rfl, t, hitems, hdb⟩

theorem replace_row_of_new {t : Table} {item : Item} (hnew : t.select 0 (.ofUuid item.id) = []) :
    t.replace item.row = t.append item.row := by
  have hkept : t.discard (fun s => s[0]? == item.row[0]?) = t :=
    Table.discard_eq_self_iff.2 fun s hs =>
      eq_false_of_ne_true (List.filter_eq_nil_iff.1 hnew s hs)
  rw [Table.replace, hkept]

/-- An addition that succeeds after its node was found or made. -/
theorem added_of_saved {db after : Database} {t : Table}
    (hcheck : Validation.checkItem (n.toItem id node now).settings = .ok ())
    (hitems : db.items = some t) (hnew : t.select 0 (.ofUuid id) = [])
    (hafter : after.items = some (t.replace (n.toItem id node now).row))
    (howner : ∃ t r, after.nodes = some t ∧ t.select 1 (.text n.node) = [r] ∧
      Database.nodeId r = .ok node)
    (hnodes : after.nodes = db.nodes ∨ ∃ t, db.nodes = some t ∧
      t.select 1 (.text n.node) = [] ∧
      after.nodes = some (t.append (Database.nodeRow node n.node)))
    (hothers : after = { db with nodes := after.nodes, items := after.items }) :
    Added n id now (n.toItem id node now) db after where
  item_eq := rfl
  accepted := hcheck
  items := ⟨t, hitems, hafter.trans (congrArg some (replace_row_of_new hnew))⟩
  read := n.ofRow_row_toItem id node
  owner := howner
  nodes := hnodes
  others := hothers

/-- An addition that fails leaves nodes and items as they were, unless it has made the node. -/
theorem failed_addOver_iff {e : AdditionError} (h : n.addOver nodeId id now c = (.error e, d)) :
    d.db.nodes = c.db.nodes ∧ d.db.items = c.db.items ↔ ¬c.MakesNode n.node := by
  rcases Connection.upsertNode_cases c nodeId n.node with
    ⟨e', c₁, hnode, hdb, hmakes⟩ | ⟨t, row, rest, node, c₁, hnode, hdb, hnodes, hselect, -⟩ |
      ⟨t, c₁, hnode, hmakes, hnodes, hdb⟩
  · rw [addOver, hnode] at h
    obtain ⟨-, rfl⟩ := Prod.mk.inj h
    exact iff_of_true ⟨congrArg _ hdb, congrArg _ hdb⟩ hmakes
  · rcases addOver_of_node hnode h with ⟨_, -, hkept⟩ | ⟨hok, -⟩
    · have hsame := hkept.trans hdb
      exact iff_of_true ⟨congrArg _ hsame, congrArg _ hsame⟩
        (Connection.not_makesNode_of_select hnodes hselect)
    · cases hok
  · rcases addOver_of_node hnode h with ⟨_, -, hkept⟩ | ⟨hok, -⟩
    · refine iff_of_false (fun hsame => ?_) (not_not_intro hmakes)
      rw [hkept, hdb, hnodes] at hsame
      have hrows := congrArg (fun t : Option Table => t.map (·.rows.length)) hsame.1
      simp [Table.append] at hrows
    · cases hok

/-- An addition that succeeds adds the item, its node if there was none, and nothing else. -/
theorem added_of_addOver {item : Item}
    (hnames : ∀ t, c.db.nodes = some t → (t.select 1 (.text n.node)).length ≤ 1)
    (hnew : ∀ t, c.db.items = some t → t.select 0 (.ofUuid id) = [])
    (h : n.addOver nodeId id now c = (.ok item, d)) : Added n id now item c.db d.db := by
  rcases Connection.upsertNode_cases c nodeId n.node with
    ⟨e', c₁, hnode, -, -⟩ | ⟨t, row, rest, node, c₁, hnode, hdb, hnodes, hselect, hid⟩ |
      ⟨t, c₁, hnode, hmakes, hnodes, hdb⟩
  · rw [addOver, hnode] at h
    cases (Prod.mk.inj h).1
  · rcases addOver_of_node hnode h with ⟨_, herror, -⟩ | ⟨hok, hcheck, items, hitems, hafter⟩
    · cases herror
    · obtain rfl := Except.ok.inj hok
      rw [hdb] at hitems hafter
      have hone : t.select 1 (.text n.node) = [row] := by
        have hlength := hnames t hnodes
        rw [hselect] at hlength ⊢
        rw [List.eq_nil_of_length_eq_zero (l := rest) (by simpa using hlength)]
      rw [hafter]
      exact added_of_saved hcheck hitems (hnew items hitems) rfl ⟨t, row, hnodes, hone, hid⟩
        (.inl rfl) rfl
  · rcases addOver_of_node hnode h with ⟨_, herror, -⟩ | ⟨hok, hcheck, items, hitems, hafter⟩
    · cases herror
    · obtain rfl := Except.ok.inj hok
      rw [hdb] at hitems hafter
      obtain ⟨t', ht', hnone⟩ := hmakes.unknown
      obtain rfl := Option.some.inj (hnodes.symm.trans ht')
      rw [hafter]
      exact added_of_saved hcheck hitems (hnew items hitems) rfl
        ⟨_, _, rfl, Database.select_append_nodeRow hnone nodeId, Database.nodeId_nodeRow ..⟩
        (.inr ⟨t, hnodes, hnone, rfl⟩) rfl

/-- Over any connection: if an addition fails, nodes and items are as before exactly if it has not
made the node, and if it succeeds, then it has added the one item and nothing else but its node.
This is what the database does if no call fails. -/
theorem addition_kept_iff
    (hnames : ∀ t, c.db.nodes = some t → (t.select 1 (.text n.node)).length ≤ 1)
    (hnew : ∀ t, c.db.items = some t → t.select 0 (.ofUuid id) = [])
    (h : n.addOver nodeId id now c = (r, d)) :
    (∀ e, r = .error e →
      (d.db.nodes = c.db.nodes ∧ d.db.items = c.db.items ↔ ¬c.MakesNode n.node)) ∧
    (∀ item, r = .ok item → Added n id now item c.db d.db) ∧
    (c.faults = [] → n.addTo nodeId id now c.db = (r, d.db)) := by
  refine ⟨?_, ?_, ?_⟩
  · rintro e rfl
    exact failed_addOver_iff h
  · rintro item rfl
    exact added_of_addOver hnames hnew h
  · intro hfaults
    obtain ⟨db, faults⟩ := c
    obtain rfl : faults = [] := hfaults
    obtain ⟨hanswer, rfl⟩ := Prod.mk.inj ((n.addOver_of_no_faults nodeId id now db).symm.trans h)
    exact Prod.ext hanswer rfl

end CommandLine.NewItem

namespace Sample

/-- An item to be added that is checked every so many seconds. -/
def described (seconds : UInt64) : CommandLine.NewItem where
  node := "edge"
  name := "web"
  probe := "tcp"
  target := "h:1"
  intervalSeconds := seconds
  timeoutSeconds := 5
  retry := 3
  level := .high
  logMode := .always
  script := "rtt < 100"

end Sample

namespace CommandLine.NewItem

theorem addition_kept_sample :
    let c : Connection := ⟨.fresh, []⟩
    let n := Sample.described 60
    let added := n.addOver ⟨1⟩ ⟨2⟩ .epoch c
    ∃ item, added.1 = .ok item ∧ Added n ⟨2⟩ .epoch item c.db added.2.db := by
  intro c n added
  have hnode : Connection.upsertNode ⟨1⟩ n.node c = (.ok ⟨1⟩, _) := rfl
  have hcheck : Validation.checkItem (n.toItem ⟨2⟩ ⟨1⟩ .epoch).settings = .ok () := by
    decide +kernel
  have hadded : added = (.ok (n.toItem ⟨2⟩ ⟨1⟩ .epoch), added.2) := by
    refine Prod.ext ?_ rfl
    simp only [added, addOver, hnode, hcheck]
    rfl
  obtain ⟨-, hok, -⟩ := addition_kept_iff (by decide) (by decide) hadded
  exact ⟨_, congrArg Prod.fst hadded, hok _ rfl⟩

/-- The interval is too short, but the node has been made. -/
theorem node_left_sample :
    let c : Connection := ⟨.fresh, []⟩
    let added := (Sample.described 5).addOver ⟨1⟩ ⟨2⟩ .epoch c
    added.1 = .error (.invalid (.intervalTooShort 5)) ∧
      c.db.nodes.map Table.rows = some [] ∧
      added.2.db.nodes.map Table.rows = some [Database.nodeRow ⟨1⟩ "edge"] ∧
      added.2.db.items.map Table.rows = some [] :=
  ⟨rfl, rfl, rfl, rfl⟩

end CommandLine.NewItem

end Vigil
