import Vigil.Proofs.Store.Agreement
import Vigil.Proofs.Store.Steady

/-!
# Calls of a database that fail

A request to the database is a few calls of a connection: it is taken from the pool, a
transaction begins and ends, statements are executed. Any of these calls may fail. What
was done in a transaction is taken back if it is not committed, and a statement that
fails has done nothing. So a request that fails leaves every table as it was, but for a
purge: its two statements are not in one transaction, and the history that the first one
dropped is gone when the second one fails.
-/

namespace Vigil

/-- A connection with a database. -/
structure Connection where
  db : Database
  /-- How the next calls fail, in order. Those after them do not. -/
  faults : List (Option StoreError)

/-- A statement that drops the rows with a value in a column, and counts them. -/
def Database.drop (name : TableName) (column : Nat) (value : Cell) : Access Database Nat :=
  execute name fun t => .ok ((t.select column value).length, t.discard (Table.holds column value))

namespace Connection

variable {α β : Type}

/-- How the next call fails, if it does. -/
def fault? (c : Connection) : Option StoreError := c.faults.head?.join

/-- The connection after a call, as far as no table is concerned. -/
def next (c : Connection) : Connection := { c with faults := c.faults.tail }

/-- A call, which may fail instead. -/
def call (a : Access Database α) : Access Connection α := fun c =>
  match c.fault? with
  | some e => (.error e, c.next)
  | none => ((a c.db).1, { c.next with db := (a c.db).2 })

/-- A call that touches no table: the connection is taken, a transaction begins or ends. -/
def signal : Access Connection Unit := call (pure ())

/-- A statement on a connection that was just taken. -/
def single (a : Access Database α) : Access Connection α := do
  signal
  call a

/-- What is done between the beginning and the commit of a transaction, and taken back if
anything fails. -/
def transaction (a : Access Connection α) : Access Connection α := fun c =>
  match (do signal; let x ← a; signal; return x : Access Connection α) c with
  | (.ok x, d) => (.ok x, d)
  | (.error e, d) => (.error e, { d with db := c.db })

/-- Changes the row of an item, and looks afterwards whether there was one. -/
def modifyItem (id : Uuid) (f : Row → Row) : Access Connection Unit := do
  signal
  let changed ← call <| Database.execute .items fun t =>
    .ok ((t.select 0 (.ofUuid id)).length, t.modify 0 (.ofUuid id) f)
  if changed = 0 then throw (.notFound id)

/-- Removes an item with its history in one transaction. -/
def deleteItem (id : Uuid) : Access Connection Unit := do
  signal
  transaction do
    let _ ← call (Database.drop .history 1 (.ofUuid id))
    let deleted ← call (Database.drop .items 0 (.ofUuid id))
    if deleted = 0 then
      signal
      throw (.notFound id)

instance : Store Connection where
  get? id := single (Store.get? id)
  items := single Store.items
  update item := modifyItem item.id (Item.progressRow item.progress)
  reschedule id nextDue lastRun := modifyItem id (Item.scheduleRow nextDue lastRun)
  save item := single (Store.save item)
  delete := deleteItem
  appendHistory r := single (Store.appendHistory r)
  history id limit := single (Store.history id limit)
  appendEvent e := single (Store.appendEvent e)
  recentEvents limit := single (Store.recentEvents limit)
  purgeBefore historyCutoff eventCutoff := do
    signal
    let history ← call (Database.dropBefore .history 2 historyCutoff)
    let events ← call (Database.dropBefore .events 1 eventCutoff)
    return history + events

instance : Directory Connection where
  nodeName? id := single (Directory.nodeName? id)
  markChanged id time := single (Directory.markChanged id time)

end Connection

/-- An operation of a store or a directory. -/
inductive Request where
  | store (op : StoreOp)
  | nodeName (id : Uuid)
  | markChanged (id : Uuid) (time : Time)

/-- What a request is answered: by the store, or with the name of a node. -/
abbrev Request.Reply := StoreAnswer ⊕ Option String

/-- A request with its reply. -/
def Request.ask {σ : Type} [Store σ] [Directory σ] : Request → Access σ Request.Reply
  | store op => .inl <$> op.ask
  | nodeName id => .inr <$> Directory.nodeName? id
  | markChanged id time => (fun _ => .inl .done) <$> Directory.markChanged id time

/-- A database with one record. -/
def Sample.recorded : Database :=
  ((Store.appendHistory ⟨item.id, .epoch, .normal, .empty⟩ : Access Database Unit) .fresh).2

/-! ### A connection that never fails -/

namespace Table

variable {t : Table} {column : Nat} {value : Cell}

theorem modify_of_select_nil (h : t.select column value = []) (f : Row → Row) :
    t.modify column value f = t := by
  have hnone : ∀ r ∈ t.rows, holds column value r ≠ true := List.filter_eq_nil_iff.1 h
  have hrows : (t.rows.map fun r => if holds column value r then f r else r) = t.rows := by
    rw [List.map_congr_left fun r hr => if_neg (hnone r hr), List.map_id']
  rw [modify, hrows]

theorem discard_eq_self_iff {drop : Row → Bool} :
    t.discard drop = t ↔ ∀ r ∈ t.rows, drop r = false := by
  have hrows : t.discard drop = t ↔ t.rows.filter (fun r => !drop r) = t.rows := by
    cases t
    simp [discard]
  simp only [hrows, List.filter_eq_self, Bool.not_eq_true']

end Table

namespace Database

variable {α : Type} {db : Database} {name : TableName}

theorem setTable_of_table? {t : Table} (h : db.table? name = some t) :
    db.setTable name (some t) = db := by
  cases name <;> (rw [← h]; rfl)

theorem execute_of_missing (h : db.table? name = none)
    (f : Table → Except StoreError (α × Table)) : execute name f db = (.error .query, db) := by
  refine Access.change_of_error ?_
  rw [existing, h]
  rfl

/-- Looking for the item first comes to the same as counting the rows that were changed. -/
theorem modifyItem_eq (id : Uuid) (f : Row → Row) :
    modifyItem id f = (do
      let changed ← execute .items fun t =>
        .ok ((t.select 0 (.ofUuid id)).length, t.modify 0 (.ofUuid id) f)
      if changed = 0 then throw (.notFound id)) := by
  funext db
  cases htable : db.table? .items with
  | none =>
      rw [Access.bind_of_error (execute_of_missing htable _)]
      exact execute_of_missing htable _
  | some t =>
      rw [Access.bind_of_ok (execute_of_ok htable rfl)]
      cases hselect : t.select 0 (.ofUuid id) with
      | nil =>
          rw [Table.modify_of_select_nil hselect, setTable_of_table? htable]
          exact execute_of_error htable (by rw [hselect]; rfl)
      | cons r rows => exact execute_of_ok htable (by rw [hselect]; rfl)

theorem drop_of_table? {t : Table} (h : db.table? name = some t) (column : Nat) (value : Cell) :
    drop name column value db = (.ok (t.select column value).length,
      db.setTable name (some (t.discard (Table.holds column value)))) :=
  execute_of_ok h rfl

theorem drop_of_missing (h : db.table? name = none) (column : Nat) (value : Cell) :
    drop name column value db = (.error .query, db) :=
  execute_of_missing h _

theorem dropBefore_of_table? {t : Table} (h : db.table? name = some t) (column : Nat)
    (cutoff : Time) :
    ∃ count, dropBefore name column cutoff db = (.ok count, db.setTable name (some
      (t.discard fun r => ((r[column]?.getD Cell.null).order (.ofTime cutoff)).isLT))) :=
  ⟨_, execute_of_ok h rfl⟩

theorem dropBefore_of_missing (h : db.table? name = none) (column : Nat) (cutoff : Time) :
    dropBefore name column cutoff db = (.error .query, db) :=
  execute_of_missing h _

theorem setTable_eq_self_iff {t t' : Table} (h : db.table? name = some t) :
    db.setTable name (some t') = db ↔ t' = t := by
  constructor
  · intro heq
    have htable := congrArg (·.table? name) heq
    rw [table?_setTable, h] at htable
    exact Option.some.inj htable
  · rintro rfl
    exact setTable_of_table? h

/-- An operation of which nothing is left if it fails. -/
def allOrNothing (b : Access Database α) : Access Database α := fun db =>
  match b db with
  | (.ok x, after) => (.ok x, after)
  | (.error e, _) => (.error e, db)

/-- Looking for both tables and the item first comes to the same as taking the history
back if no item was dropped. -/
theorem deleteItem_eq (id : Uuid) :
    deleteItem id = allOrNothing (do
      let _ ← drop .history 1 (.ofUuid id)
      let deleted ← drop .items 0 (.ofUuid id)
      if deleted = 0 then throw (.notFound id)) := by
  funext db
  cases hhistory : db.table? .history with
  | none =>
      rw [allOrNothing, Access.bind_of_error (drop_of_missing hhistory _ _)]
      exact Access.change_of_error (by rw [existing, hhistory]; rfl)
  | some history =>
      have hitemsAfter (after : Table) :
          (db.setTable .history (some after)).table? .items = db.table? .items :=
        table?_setTable_of_ne (by decide)
      rw [allOrNothing, Access.bind_of_ok (drop_of_table? hhistory _ _)]
      cases hitems : db.table? .items with
      | none =>
          rw [Access.bind_of_error (drop_of_missing ((hitemsAfter _).trans hitems) _ _)]
          refine Access.change_of_error ?_
          rw [existing, existing, hhistory, hitems]
          rfl
      | some items =>
          rw [Access.bind_of_ok (drop_of_table? ((hitemsAfter _).trans hitems) _ _),
            deleteItem_of_tables hitems hhistory]
          cases items.select 0 (.ofUuid id) <;> rfl

end Database

namespace Connection

variable {α β : Type} {a : Access Connection α} {b : Access Database α} {c : Connection}

theorem call_of_fault {e : StoreError} (h : c.fault? = some e) :
    call b c = (.error e, c.next) := by
  rw [call, h]

theorem call_of_no_fault (h : c.fault? = none) :
    call b c = ((b c.db).1, { c.next with db := (b c.db).2 }) := by
  rw [call, h]

theorem signal_bind_of_fault {e : StoreError} (h : c.fault? = some e) :
    (do signal; a : Access Connection α) c = (.error e, c.next) :=
  Access.bind_of_error (call_of_fault h)

theorem signal_bind_of_no_fault (h : c.fault? = none) :
    (do signal; a : Access Connection α) c = a c.next :=
  Access.bind_of_ok (call_of_no_fault h)

/-- A statement of its own is made as it is, or a call fails and nothing is changed. -/
theorem single_cases (b : Access Database α) (c : Connection) :
    (∃ e d, single b c = (.error e, d) ∧ d.db = c.db ∧
      (c.fault? ≠ none ∨ c.next.fault? ≠ none)) ∨
    (c.fault? = none ∧ c.next.fault? = none ∧
      single b c = ((b c.db).1, { c.next.next with db := (b c.db).2 })) := by
  cases htaken : c.fault? with
  | some e =>
      exact .inl ⟨e, c.next, signal_bind_of_fault htaken, rfl, .inl (Option.some_ne_none e)⟩
  | none =>
      rw [single, signal_bind_of_no_fault htaken]
      cases hmade : c.next.fault? with
      | some e =>
          exact .inl ⟨e, c.next.next, call_of_fault hmade, rfl, .inr (Option.some_ne_none e)⟩
      | none => exact .inr ⟨rfl, rfl, call_of_no_fault hmade⟩

/-- What is looked at after a statement needs no further call. -/
theorem modifyItem_eq (id : Uuid) (f : Row → Row) :
    modifyItem id f = single (Database.modifyItem id f) := by
  rw [Database.modifyItem_eq]
  refine congrArg (signal >>= ·) (funext fun _ => funext fun c => ?_)
  cases hfault : c.fault? with
  | some e => rw [Access.bind_of_error (call_of_fault hfault), call_of_fault hfault]
  | none =>
      generalize hb : Database.execute (α := Nat) .items _ = b
      rw [call_of_no_fault hfault]
      cases h : b c.db with
      | mk r after =>
          have hcall : call b c = (r, { c.next with db := after }) := by
            rw [call_of_no_fault hfault, h]
          cases r with
          | error e => rw [Access.bind_of_error hcall, Access.bind_of_error h]
          | ok changed =>
              rw [Access.bind_of_ok hcall, Access.bind_of_ok h]
              split <;> rfl

/-- On a connection that never fails an operation does what another one does to the
database. -/
def Performs (a : Access Connection α) (b : Access Database α) : Prop :=
  ∀ db, a ⟨db, []⟩ = ((b db).1, ⟨(b db).2, []⟩)

theorem performs_call (b : Access Database α) : Performs (call b) b := fun _ => rfl

theorem performs_single (b : Access Database α) : Performs (single b) b := fun _ => rfl

theorem performs_throw (e : StoreError) :
    Performs (throw e : Access Connection α) (throw e) := fun _ => rfl

namespace Performs

theorem signal_bind (h : Performs a b) : Performs (do signal; a) b := h

theorem bind {f : α → Access Connection β} {g : α → Access Database β} (h : Performs a b)
    (hfg : ∀ x, Performs (f x) (g x)) : Performs (a >>= f) (b >>= g) := by
  intro db
  have hdb := h db
  cases hb : b db with
  | mk r after =>
      rw [hb] at hdb
      cases r with
      | ok x => rw [Access.bind_of_ok hdb, Access.bind_of_ok hb, hfg x after]
      | error e => rw [Access.bind_of_error hdb, Access.bind_of_error hb]

theorem map (h : Performs a b) (f : α → β) : Performs (f <$> a) (f <$> b) := by
  intro db
  rw [Access.map_apply, Access.map_apply, h db]

end Performs

theorem performs_transaction (h : Performs a b) :
    Performs (transaction a) (Database.allOrNothing b) := by
  intro db
  have hdb := h db
  cases hb : b db with
  | mk r after =>
      have hinner : (do signal; let x ← a; signal; return x : Access Connection α) ⟨db, []⟩ =
          (r, ⟨after, []⟩) := by
        have hsignal : signal ⟨db, []⟩ = (.ok (), ⟨db, []⟩) := rfl
        rw [hb] at hdb
        rw [Access.bind_of_ok hsignal]
        cases r with
        | ok x => exact Access.bind_of_ok hdb
        | error e => exact Access.bind_of_error hdb
      rw [transaction, hinner, Database.allOrNothing, hb]
      cases r <;> rfl

theorem performs_modifyItem (id : Uuid) (f : Row → Row) :
    Performs (modifyItem id f) (Database.modifyItem id f) := by
  rw [modifyItem_eq]
  exact performs_single _

theorem performs_deleteItem (id : Uuid) : Performs (deleteItem id) (Database.deleteItem id) := by
  rw [Database.deleteItem_eq]
  refine Performs.signal_bind (performs_transaction ?_)
  refine (performs_call _).bind fun _ => (performs_call _).bind ?_
  intro deleted
  split
  · exact (performs_throw _).signal_bind
  · exact fun _ => rfl

theorem performs_purgeBefore (records events : Time) :
    Performs (Store.purgeBefore records events) (Store.purgeBefore records events) :=
  ((performs_call _).bind fun _ => (performs_call _).bind fun _ _ => rfl).signal_bind

/-- A connection that never fails answers every request as the database does, and does to
it the same. -/
theorem performs_ask (q : Request) : Performs q.ask q.ask := by
  cases q with
  | store op =>
      refine Performs.map ?_ _
      cases op with
      | save item => exact (performs_single _).map _
      | update item => exact (performs_modifyItem _ _).map _
      | reschedule id nextDue lastRun => exact (performs_modifyItem _ _).map _
      | delete id => exact (performs_deleteItem _).map _
      | get id => exact (performs_single _).map _
      | list => exact (performs_single _).map _
      | appendHistory r => exact (performs_single _).map _
      | history id limit => exact (performs_single _).map _
      | appendEvent e => exact (performs_single _).map _
      | recentEvents limit => exact (performs_single _).map _
      | purgeBefore records events => exact (performs_purgeBefore _ _).map _
  | nodeName id => exact (performs_single _).map _
  | markChanged id time => exact (performs_single _).map _

end Connection

/-! ### Requests that fail -/

namespace Connection

variable {α β : Type} {a : Access Connection α} {b : Access Database α} {c d : Connection}

/-- An operation that leaves all tables as they are if it fails. -/
def Traceless (a : Access Connection α) : Prop := ∀ c d e, a c = (.error e, d) → d.db = c.db

theorem traceless_call (hb : b.Atomic) : Traceless (call b) := by
  intro c d e h
  cases hfault : c.fault? with
  | some e' =>
      rw [call_of_fault hfault] at h
      obtain ⟨-, rfl⟩ := Prod.mk.inj h
      rfl
  | none =>
      rw [call_of_no_fault hfault] at h
      obtain ⟨hanswer, rfl⟩ := Prod.mk.inj h
      exact hb _ _ e (Prod.ext hanswer rfl)

theorem traceless_transaction (a : Access Connection α) : Traceless (transaction a) := by
  intro c d e h
  unfold transaction at h
  split at h
  · cases (Prod.mk.inj h).1
  · obtain ⟨-, rfl⟩ := Prod.mk.inj h
    rfl

namespace Traceless

theorem signal_bind (h : Traceless a) : Traceless (do signal; a) := by
  intro c d e hfail
  cases hfault : c.fault? with
  | some e' =>
      rw [signal_bind_of_fault hfault] at hfail
      obtain ⟨-, rfl⟩ := Prod.mk.inj hfail
      rfl
  | none =>
      rw [signal_bind_of_no_fault hfault] at hfail
      have hnext : d.db = c.next.db := h c.next d e hfail
      exact hnext

theorem map (h : Traceless a) (f : α → β) : Traceless (f <$> a) :=
  fun c d e hfail => h c d e (Access.of_map_error hfail)

end Traceless

theorem traceless_single (hb : b.Atomic) : Traceless (single b) := (traceless_call hb).signal_bind

theorem traceless_modifyItem (id : Uuid) (f : Row → Row) : Traceless (modifyItem id f) := by
  rw [modifyItem_eq]
  exact traceless_single (Access.atomic_change _)

theorem traceless_deleteItem (id : Uuid) : Traceless (deleteItem id) :=
  (traceless_transaction _).signal_bind

/-- All requests but purges leave no trace if they fail. -/
theorem traceless_ask {q : Request}
    (hq : ∀ records events, q ≠ .store (.purgeBefore records events)) :
    Traceless (q.ask (σ := Connection)) := by
  cases q with
  | nodeName id => exact (traceless_single (Access.atomic_look _)).map _
  | markChanged id time => exact (traceless_single (Access.atomic_change _)).map _
  | store op =>
      refine Traceless.map ?_ _
      cases op with
      | save item => exact (traceless_single (Access.atomic_change _)).map _
      | update item => exact (traceless_modifyItem _ _).map _
      | reschedule id nextDue lastRun => exact (traceless_modifyItem _ _).map _
      | delete id => exact (traceless_deleteItem id).map _
      | get id => exact (traceless_single (Access.atomic_look _)).map _
      | list => exact (traceless_single (Access.atomic_look _)).map _
      | appendHistory r => exact (traceless_single (Access.atomic_change _)).map _
      | history id limit => exact (traceless_single (Access.atomic_look _)).map _
      | appendEvent e => exact (traceless_single (Access.atomic_change _)).map _
      | recentEvents limit => exact (traceless_single (Access.atomic_look _)).map _
      | purgeBefore records events => exact absurd rfl (hq records events)

/-- Neither taking the connection nor the first statement of a purge fails, and this
statement finds records to drop. -/
structure DropsRecords (c : Connection) (cutoff : Time) : Prop where
  taken : c.fault? = none
  executed : c.next.fault? = none
  found : ∃ t, c.db.history = some t ∧
    ∃ r ∈ t.rows, ((r[2]?.getD Cell.null).order (.ofTime cutoff)).isLT = true

/-- The first statement of a purge is not executed, or it drops the records from before the
cut-off. -/
theorem call_dropBefore_cases (c : Connection) (cutoff : Time) :
    (∃ e, call (Database.dropBefore .history 2 cutoff) c = (.error e, c.next) ∧
      (c.fault? = none → c.db.table? .history = none)) ∨
    ∃ t count, c.fault? = none ∧ c.db.table? .history = some t ∧
      call (Database.dropBefore .history 2 cutoff) c = (.ok count,
        { c.next with db := c.db.setTable .history (some (t.discard fun r =>
          ((r[2]?.getD Cell.null).order (.ofTime cutoff)).isLT)) }) := by
  cases hfault : c.fault? with
  | some e => exact .inl ⟨e, call_of_fault hfault, by simp⟩
  | none =>
      rw [call_of_no_fault hfault]
      cases hhistory : c.db.table? .history with
      | none =>
          rw [Database.dropBefore_of_missing hhistory]
          exact .inl ⟨_, rfl, fun _ => rfl⟩
      | some t =>
          obtain ⟨count, hdrop⟩ := Database.dropBefore_of_table? hhistory 2 cutoff
          rw [hdrop]
          exact .inr ⟨t, count, rfl, rfl, rfl⟩

/-- A purge that fails leaves the tables as they were unless it has dropped records. -/
theorem purgeBefore_traceless_iff {records events : Time} {e : StoreError}
    (h : (Store.purgeBefore records events : Access Connection _) c = (.error e, d)) :
    d.db = c.db ↔ ¬ c.DropsRecords records := by
  change (do
    signal
    let history ← call (Database.dropBefore .history 2 records)
    let events ← call (Database.dropBefore .events 1 events)
    return history + events : Access Connection Nat) c = _ at h
  -- one case for each call that may be the first to fail
  cases hfault : c.fault? with
  | some e' =>
      rw [signal_bind_of_fault hfault] at h
      obtain ⟨-, rfl⟩ := Prod.mk.inj h
      refine iff_of_true rfl fun hdrops => ?_
      cases hdrops.taken.symm.trans hfault
  | none =>
      rw [signal_bind_of_no_fault hfault] at h
      rcases c.next.call_dropBefore_cases records with
        ⟨e', hcall, hmissing⟩ | ⟨t, count, hnext, hhistory, hcall⟩
      · rw [Access.bind_of_error hcall] at h
        obtain ⟨-, rfl⟩ := Prod.mk.inj h
        refine iff_of_true rfl fun hdrops => ?_
        obtain ⟨t, ht, -⟩ := hdrops.found
        cases (hmissing hdrops.executed).symm.trans ht
      · rw [Access.bind_of_ok hcall, bind_pure_comp] at h
        have hrest := ((traceless_call (Access.atomic_change _)).map _) _ d e h
        rw [hrest]
        refine (Database.setTable_eq_self_iff hhistory).trans ?_
        rw [Table.discard_eq_self_iff]
        constructor
        · rintro hkept ⟨-, -, t', ht', r, hr, hbefore⟩
          obtain rfl := Option.some.inj (hhistory.symm.trans ht')
          rw [hkept r hr] at hbefore
          cases hbefore
        · intro hdrops r hr
          by_contra hbefore
          exact hdrops ⟨hfault, hnext, t, hhistory, r, hr, eq_true_of_ne_false hbefore⟩

/-- The request is a purge that drops records. -/
def LosesRecords (c : Connection) (q : Request) : Prop :=
  ∃ records events, q = .store (.purgeBefore records events) ∧ c.DropsRecords records

/-- A request that fails leaves every table as it was, unless it is a purge that has dropped
records already; and on a connection that never fails this is what the database does. -/
theorem failed_ask_traceless_iff {q : Request} {e : StoreError}
    (h : q.ask c = (.error e, d)) :
    (d.db = c.db ↔ ¬ c.LosesRecords q) ∧ (c.faults = [] → q.ask c.db = (.error e, d.db)) := by
  constructor
  · by_cases hpurge : ∃ records events, q = .store (.purgeBefore records events)
    · obtain ⟨records, events, rfl⟩ := hpurge
      refine (purgeBefore_traceless_iff (Access.of_map_error (Access.of_map_error h))).trans ?_
      refine not_congr ⟨fun hdrops => ⟨records, events, rfl, hdrops⟩, ?_⟩
      rintro ⟨_, _, ⟨⟩, hdrops⟩
      exact hdrops
    · have hq : ∀ records events, q ≠ .store (.purgeBefore records events) :=
        fun records events heq => hpurge ⟨records, events, heq⟩
      refine iff_of_true (traceless_ask hq c d e h) ?_
      rintro ⟨records, events, heq, -⟩
      exact hq records events heq
  · intro hfaults
    obtain ⟨db, faults⟩ := c
    obtain rfl : faults = [] := hfaults
    have hperforms := (performs_ask q db).symm.trans h
    obtain ⟨hanswer, rfl⟩ := Prod.mk.inj hperforms
    exact Prod.ext hanswer rfl

/-- The history is not deleted if the item cannot be. -/
theorem failed_ask_traceless_sample :
    let c : Connection := ⟨Sample.recorded, [none, none, none, some .query]⟩
    let q := Request.store (.delete Sample.item.id)
    (q.ask c).1.isOk = false ∧ (q.ask c).2.db = Sample.recorded := by
  intro c q
  have hfailed : q.ask c = (.error .query, (q.ask c).2) := rfl
  refine ⟨rfl, (failed_ask_traceless_iff hfailed).1.2 ?_⟩
  rintro ⟨records, events, hq, -⟩
  cases Request.store.inj hq

/-- The events cannot be dropped because there is no table of events, but the record from
before the cut-off is gone. -/
theorem purge_loses_record_sample :
    let db := Sample.recorded.dropTable .events
    let cutoff : Time := { second := 1, nanos := 0 }
    let purged := (Store.purgeBefore cutoff cutoff : Access Database Nat) db
    purged.1.isOk = false ∧ db.history.map (·.rows.length) = some 1 ∧
      purged.2.history.map (·.rows.length) = some 0 := by
  decide +kernel

end Connection

end Vigil
