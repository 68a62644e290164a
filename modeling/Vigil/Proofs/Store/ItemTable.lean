import Vigil.Proofs.Except
import Vigil.Proofs.Store.Connection
import Vigil.Proofs.Store.Contents

/-!
# The table of items

A table holds items if each of its rows is the row of one of them, and each item is
selected by its identifier alone. Saving puts an item in the place of another one, a change
of the progress writes the last cells of one row, and deleting drops a row; in all three
cases the other items are selected as before.
-/

namespace Vigil

namespace Table

variable {t : Table} {column : Nat} {value other : Cell} {f : Row → Row}

theorem eq_of_holds {r : Row} (hvalue : holds column value r = true)
    (hother : holds column other r = true) : other = value := by
  rw [holds, beq_iff_eq] at hvalue hother
  exact Option.some.inj (hother.symm.trans hvalue)

theorem select_discard (t : Table) (column : Nat) (value other : Cell) :
    (t.discard (holds column value)).select column other =
      if other = value then [] else t.select column other := by
  rw [discard, select, List.filter_filter]
  by_cases heq : other = value
  · subst heq
    rw [if_pos rfl, List.filter_eq_nil_iff]
    simp
  · rw [if_neg heq, select]
    apply List.filter_congr
    intro r _
    cases hother : holds column other r with
    | false => rfl
    | true =>
        have hvalue : holds column value r = false :=
          eq_false_of_ne_true fun h => heq (eq_of_holds h hother)
        rw [hvalue]
        rfl

theorem select_modify (t : Table) (hf : ∀ r, (f r)[column]? = r[column]?) (other : Cell) :
    (t.modify column value f).select column other =
      if other = value then (t.select column value).map f else t.select column other := by
  have hholds (r : Row) : holds column other
      (if holds column value r then f r else r) = holds column other r := by
    split
    · rw [holds, holds, hf]
    · rfl
  have hselect : (t.modify column value f).select column other =
      (t.select column other).map fun r => if holds column value r then f r else r := by
    rw [modify, select, List.filter_map, select]
    exact congrArg _ (List.filter_congr fun r _ => hholds r)
  rw [hselect]
  by_cases heq : other = value
  · subst heq
    rw [if_pos rfl]
    exact List.map_congr_left fun r hr => if_pos (List.mem_filter.1 hr).2
  · rw [if_neg heq]
    have hrest : ∀ r ∈ t.select column other,
        (if holds column value r then f r else r) = r := by
      intro r hr
      exact if_neg fun h => heq (eq_of_holds h (List.mem_filter.1 hr).2)
    rw [List.map_congr_left hrest, List.map_id']

end Table

/-! ### Items and their rows -/

theorem Cell.ofUuid_injective : Function.Injective Cell.ofUuid :=
  fun _ _ h => Uuid.text_injective (Cell.text.inj h)

/-- Every row is that of an item, and an identifier selects the row of its item. -/
structure Table.HoldsItems (t : Table) (item? : Uuid → Option Item) : Prop where
  rows : ∀ r ∈ t.rows, ∃ i : Item, item? i.id = some i ∧ r = i.row
  select : ∀ id, t.select 0 (.ofUuid id) = (item? id).toList.map Item.row

namespace Table.HoldsItems

variable {t : Table} {item? : Uuid → Option Item}

theorem empty : Table.empty.HoldsItems fun _ => none := ⟨by simp [Table.empty], fun _ => rfl⟩

/-- An item is found under its own identifier. -/
theorem id_eq (h : t.HoldsItems item?) {id : Uuid} {i : Item} (hi : item? id = some i) :
    i.id = id := by
  have hmem : i.row ∈ t.select 0 (.ofUuid id) := by
    rw [h.select, hi]
    simp
  have hholds := (List.mem_filter.1 hmem).2
  rw [Item.holds_row, beq_iff_eq] at hholds
  exact hholds

theorem discard (h : t.HoldsItems item?) (id : Uuid) :
    (t.discard (Table.holds 0 (.ofUuid id))).HoldsItems (Function.update item? id none) := by
  constructor
  · intro r hr
    obtain ⟨hmem, hother⟩ := List.mem_filter.1 hr
    obtain ⟨i, hi, rfl⟩ := h.rows r hmem
    have hne : i.id ≠ id := by simpa [Item.holds_row] using hother
    exact ⟨i, by rw [Function.update_of_ne hne, hi], rfl⟩
  · intro other
    rw [Table.select_discard]
    by_cases heq : other = id
    · rw [if_pos (congrArg _ heq), heq, Function.update_self]
      rfl
    · rw [if_neg (Cell.ofUuid_injective.ne heq), Function.update_of_ne heq, h.select]

theorem append (h : t.HoldsItems item?) {item : Item} (hnew : item? item.id = none) :
    (t.append item.row).HoldsItems (Function.update item? item.id (some item)) := by
  constructor
  · intro r hr
    rcases List.mem_append.1 hr with hold | hnewest
    · obtain ⟨i, hi, rfl⟩ := h.rows r hold
      have hne : i.id ≠ item.id := fun heq => by simp [heq, hnew] at hi
      exact ⟨i, by rw [Function.update_of_ne hne, hi], rfl⟩
    · obtain rfl := List.mem_singleton.1 hnewest
      exact ⟨item, Function.update_self .., rfl⟩
  · intro id
    have happend : (t.append item.row).select 0 (.ofUuid id) =
        t.select 0 (.ofUuid id) ++ [item.row].filter (Table.holds 0 (.ofUuid id)) :=
      List.filter_append _ _
    rw [happend, h.select]
    by_cases heq : id = item.id
    · subst heq
      simp [hnew, Item.holds_row]
    · simp [heq, Item.holds_row, Ne.symm heq]

theorem replace (h : t.HoldsItems item?) (item : Item) :
    (t.replace item.row).HoldsItems (Function.update item? item.id (some item)) := by
  have hafter := (h.discard item.id).append (Function.update_self ..)
  rwa [Function.update_idem] at hafter

/-- A change of the progress in the row of an item. -/
theorem modify (h : t.HoldsItems item?) {i : Item} (hi : item? i.id = some i) {f : Row → Row}
    {g : Progress → Progress} (hcell : ∀ r, (f r)[0]? = r[0]?)
    (hf : f i.row = { i with progress := g i.progress }.row) :
    (t.modify 0 (.ofUuid i.id) f).HoldsItems
      (Function.update item? i.id (some { i with progress := g i.progress })) := by
  constructor
  · intro r hr
    obtain ⟨old, hold, rfl⟩ := List.mem_map.1 hr
    obtain ⟨j, hj, rfl⟩ := h.rows old hold
    by_cases heq : j.id = i.id
    · obtain rfl : j = i := Option.some.inj ((heq ▸ hj).symm.trans hi)
      refine ⟨{ j with progress := g j.progress }, Function.update_self .., ?_⟩
      rw [if_pos (by simp [Item.holds_row]), hf]
    · refine ⟨j, by rw [Function.update_of_ne heq, hj], ?_⟩
      rw [if_neg (by simp [Item.holds_row, heq])]
  · intro id
    rw [Table.select_modify t hcell]
    by_cases heq : id = i.id
    · rw [if_pos (congrArg _ heq), h.select, hi, heq, Function.update_self]
      simp [hf]
    · rw [if_neg (Cell.ofUuid_injective.ne heq), Function.update_of_ne heq, h.select]

end Table.HoldsItems

/-! ### Statements on the table -/

/-- What is read from the row of an item has its identifier and its settings. -/
theorem Item.eq_of_ofRow_row {i j : Item} (h : ofRow i.row = .ok j) :
    j.id = i.id ∧ j.settings = i.settings := by
  rw [ofRow_row_eq] at h
  cases hp : i.progress.reread with
  | error e =>
      rw [hp] at h
      cases h
  | ok p =>
      rw [hp] at h
      cases h
      exact ⟨rfl, rfl⟩

theorem StoreError.corrupt_of_ofTimestamp {millis : Int} {e : StoreError}
    (h : ofTimestamp millis = .error e) : ∃ reason, e = .corrupt reason := by
  unfold ofTimestamp at h
  split at h
  · cases h
  · exact ⟨_, (Except.error.inj h).symm⟩

/-- Progress that cannot be read is corrupt; no cell is of the wrong kind. -/
theorem Progress.corrupt_of_reread {p : Progress} {e : StoreError} (h : p.reread = .error e) :
    ∃ reason, e = .corrupt reason := by
  rcases Except.error_of_bind h with hdue | ⟨nextDue, -, h⟩
  · exact StoreError.corrupt_of_ofTimestamp hdue
  rcases Except.error_of_bind h with hlast | ⟨lastRun, -, h⟩
  · cases hp : p.lastRun with
    | none =>
        rw [hp] at hlast
        cases hlast
    | some t =>
        rw [hp] at hlast
        rcases Except.error_of_bind hlast with htime | ⟨a, -, hnone⟩
        · exact StoreError.corrupt_of_ofTimestamp htime
        · cases hnone
  rcases Except.error_of_bind h with hreadings | ⟨readings, -, h⟩
  · unfold StoreError.readReadings at hreadings
    split at hreadings
    · cases hreadings
    · exact ⟨_, (Except.error.inj hreadings).symm⟩
  · cases h

namespace Database

/-- The table of items is there, and holds these items. -/
def HoldsItems (db : Database) (item? : Uuid → Option Item) : Prop :=
  ∃ t, db.table? .items = some t ∧ t.HoldsItems item?

/-- Rows that cannot be read are left out of a listing. -/
theorem readItems_eq {t : Table} (h : ∀ r ∈ t.rows, Item.ofRow r ≠ .error .mistyped) :
    readItems t = .ok (t.rows.filterMap fun r => (Item.ofRow r).toOption) := by
  rw [readItems]
  generalize t.rows = rows at h
  induction rows with
  | nil => rfl
  | cons r rows ih =>
      have hrest := ih fun s hs => h s (List.mem_cons_of_mem r hs)
      have hfirst := h r List.mem_cons_self
      rw [List.foldrM_cons, hrest]
      cases hr : Item.ofRow r with
      | ok item => simp [bind, Except.bind, hr, Except.toOption]
      | error e =>
          cases e with
          | mistyped => exact absurd hr hfirst
          | _ => simp [bind, Except.bind, hr, Except.toOption]

namespace HoldsItems

variable {db : Database} {item? : Uuid → Option Item}

theorem id_eq (h : db.HoldsItems item?) {id : Uuid} {i : Item} (hi : item? id = some i) :
    i.id = id := by
  obtain ⟨t, -, hitems⟩ := h
  exact hitems.id_eq hi

theorem get? (h : db.HoldsItems item?) (id : Uuid) :
    (Store.get? id : Access Database _) db = ((item? id).mapM fun i => Item.ofRow i.row, db) := by
  obtain ⟨t, ht, hitems⟩ := h
  refine (query_of_table? _ ht).trans ?_
  rw [findRow, hitems.select]
  cases item? id <;> rfl

/-- A listing is answered with the items whose rows can be read. -/
theorem items (h : db.HoldsItems item?) :
    ∃ items, (Store.items : Access Database _) db = (.ok items, db) ∧
      ∀ j, j ∈ items ↔ ∃ i, item? i.id = some i ∧ Item.ofRow i.row = .ok j := by
  obtain ⟨t, ht, hitems⟩ := h
  -- a mistyped cell would end the listing, but no row of an item has one
  have htyped : ∀ r ∈ t.rows, Item.ofRow r ≠ .error .mistyped := by
    intro r hr herror
    obtain ⟨i, -, rfl⟩ := hitems.rows r hr
    rw [Item.ofRow_row_eq] at herror
    cases hread : i.progress.reread with
    | ok p => simp [hread, Except.map] at herror
    | error e =>
        obtain ⟨reason, rfl⟩ := Progress.corrupt_of_reread hread
        simp [hread, Except.map] at herror
  refine ⟨_, (query_of_table? _ ht).trans (by rw [readItems_eq htyped]), fun j => ?_⟩
  rw [List.mem_filterMap]
  constructor
  · rintro ⟨r, hr, hj⟩
    obtain ⟨i, hi, rfl⟩ := hitems.rows r hr
    refine ⟨i, hi, ?_⟩
    cases hread : Item.ofRow i.row with
    | error e => simp [hread, Except.toOption] at hj
    | ok k =>
        rw [hread] at hj
        rw [Option.some.inj hj]
  · rintro ⟨i, hi, hj⟩
    refine ⟨i.row, ?_, by rw [hj]; rfl⟩
    have hselected : i.row ∈ t.select 0 (.ofUuid i.id) := by
      rw [hitems.select, hi]
      simp
    exact (List.mem_filter.1 hselected).1

theorem save (h : db.HoldsItems item?) (item : Item) :
    ∃ after, (Store.save item : Access Database _) db = (.ok (), after) ∧
      after.HoldsItems (Function.update item? item.id (some item)) ∧
      after.table? .history = db.table? .history := by
  obtain ⟨t, ht, hitems⟩ := h
  exact ⟨_, execute_of_ok ht rfl, ⟨_, rfl, hitems.replace item⟩, rfl⟩

/-- The progress of an item is written if the item is there. -/
theorem modifyItem_cases (h : db.HoldsItems item?) (id : Uuid) {f : Row → Row}
    {g : Progress → Progress} (hcell : ∀ r, (f r)[0]? = r[0]?)
    (hf : ∀ i : Item, f i.row = { i with progress := g i.progress }.row) :
    (item? id = none ∧ modifyItem id f db = (.error (.notFound id), db)) ∨
    ∃ i after, item? id = some i ∧ modifyItem id f db = (.ok (), after) ∧
      after.HoldsItems (Function.update item? id (some { i with progress := g i.progress })) ∧
      after.table? .history = db.table? .history := by
  obtain ⟨t, ht, hitems⟩ := h
  have hselect := hitems.select id
  cases hi : item? id with
  | none =>
      rw [hi] at hselect
      exact .inl ⟨rfl, execute_of_error ht (by rw [hselect]; rfl)⟩
  | some i =>
      rw [hi] at hselect
      obtain rfl := hitems.id_eq hi
      exact .inr ⟨i, _, rfl, execute_of_ok ht (by rw [hselect]; rfl),
        ⟨_, rfl, hitems.modify hi hcell (hf i)⟩, rfl⟩

theorem deleteItem_cases (h : db.HoldsItems item?) {history : Table}
    (hhistory : db.table? .history = some history) (id : Uuid) :
    (item? id = none ∧ deleteItem id db = (.error (.notFound id), db)) ∨
    ∃ i after, item? id = some i ∧ deleteItem id db = (.ok (), after) ∧
      after.HoldsItems (Function.update item? id none) ∧
      after.table? .history = some (history.discard (Table.holds 1 (.ofUuid id))) := by
  obtain ⟨t, ht, hitems⟩ := h
  rw [deleteItem_of_tables ht hhistory, hitems.select]
  cases hi : item? id with
  | none => exact .inl ⟨rfl, rfl⟩
  | some i => exact .inr ⟨i, _, rfl, rfl, ⟨_, rfl, hitems.discard id⟩, rfl⟩

end HoldsItems

/-- What a database contains: the settings of the items in the rows of their table, and the
records in those of theirs. -/
structure Holds (db : Database) (c : Contents) : Prop where
  items : ∃ item?, db.HoldsItems item? ∧ c.settings? = Option.map Item.settings ∘ item?
  history : ∃ t, db.table? .history = some t ∧ t.Keeps HistoryRecord.cells c.records

theorem holds_fresh : fresh.Holds .empty where
  items := ⟨fun _ => none, ⟨.empty, rfl, Table.HoldsItems.empty⟩, rfl⟩
  history := ⟨.empty, rfl, Table.keeps_empty _⟩

variable {α : Type} {db : Database} {c : Contents}

theorem table?_execute_of_ne {name other : TableName} (hne : name ≠ other)
    (f : Table → Except StoreError (α × Table)) (db : Database) :
    (execute name f db).2.table? other = db.table? other := by
  cases ht : db.table? name with
  | none => rw [execute_of_missing ht]
  | some t =>
      cases hf : f t with
      | error e => rw [execute_of_error ht hf]
      | ok r => rw [execute_of_ok ht hf, table?_setTable_of_ne hne]

/-- A purge drops records, whether or not it fails afterwards, and leaves the items. -/
theorem table?_purgeBefore (records events : Time) {history : Table}
    (hhistory : db.table? .history = some history) :
    let after := ((Store.purgeBefore records events : Access Database Nat) db).2
    after.table? .items = db.table? .items ∧ after.table? .history = some (history.discard fun r =>
      ((r[2]?.getD Cell.null).order (.ofTime records)).isLT) := by
  obtain ⟨count, hdrop⟩ := dropBefore_of_table? hhistory 2 records
  have hpurge : (Store.purgeBefore records events : Access Database Nat) db = _ :=
    Access.bind_of_ok hdrop
  rw [bind_pure_comp, Access.map_apply] at hpurge
  rw [hpurge]
  constructor
  · exact (table?_execute_of_ne (by decide) _ _).trans (table?_setTable_of_ne (by decide))
  · exact (table?_execute_of_ne (by decide) _ _).trans (table?_setTable ..)

namespace Holds

theorem of_tables (h : db.Holds c) {after : Database}
    (hitems : after.table? .items = db.table? .items)
    (hhistory : after.table? .history = db.table? .history) : after.Holds c := by
  obtain ⟨item?, ⟨t, ht, hrows⟩, hsettings⟩ := h.items
  obtain ⟨history, hrecords, hkeeps⟩ := h.history
  exact ⟨⟨item?, ⟨t, hitems.trans ht, hrows⟩, hsettings⟩, history, hhistory.trans hrecords, hkeeps⟩

theorem modifyItem (h : db.Holds c) {op : StoreOp} {id : Uuid} {f : Row → Row}
    {g : Progress → Progress} (hcell : ∀ r, (f r)[0]? = r[0]?)
    (hf : ∀ i : Item, f i.row = { i with progress := g i.progress }.row)
    (herror : ∀ e, c.Becomes op (.error e) c)
    (hok : (c.settings? id).isSome → c.Becomes op (.ok .done) c) :
    ∃ d, c.Becomes op ((Database.modifyItem id f db).1.map fun _ => .done) d ∧
      (Database.modifyItem id f db).2.Holds d := by
  obtain ⟨item?, hitems, hsettings⟩ := h.items
  obtain ⟨history, hhistory, hkeeps⟩ := h.history
  rcases hitems.modifyItem_cases id hcell hf with
    ⟨-, hmissing⟩ | ⟨i, after, hi, hdone, hafter, hrest⟩
  · rw [hmissing]
    exact ⟨c, herror _, h⟩
  · rw [hdone]
    have hid : c.settings? id = some i.settings := by simp [hsettings, hi]
    refine ⟨c, hok (by simp [hid]), ⟨_, hafter, ?_⟩, history, hrest.trans hhistory, hkeeps⟩
    rw [Function.comp_update, ← hsettings]
    exact (Function.update_eq_self_iff.2 hid.symm).symm

theorem save (h : db.Holds c) (item : Item) :
    ∃ after, (Store.save item : Access Database _) db = (.ok (), after) ∧
      after.Holds (c.put item) := by
  obtain ⟨item?, hitems, hsettings⟩ := h.items
  obtain ⟨history, hhistory, hkeeps⟩ := h.history
  obtain ⟨after, hsaved, hafter, hrest⟩ := hitems.save item
  refine ⟨after, hsaved, ⟨_, hafter, ?_⟩, history, hrest.trans hhistory, hkeeps⟩
  rw [Function.comp_update, ← hsettings]
  rfl

theorem delete (h : db.Holds c) (id : Uuid) :
    ∃ d, c.Becomes (.delete id) ((deleteItem id db).1.map fun _ => .done) d ∧
      (deleteItem id db).2.Holds d := by
  obtain ⟨item?, hitems, hsettings⟩ := h.items
  obtain ⟨history, hhistory, hkeeps⟩ := h.history
  rcases hitems.deleteItem_cases hhistory id with
    ⟨hnone, hmissing⟩ | ⟨i, after, -, hdone, hafter, hrest⟩
  · rw [hmissing]
    exact ⟨c, .kept fun _ => by simp [hsettings, hnone], h⟩
  · rw [hdone]
    refine ⟨_, .deleted, ⟨_, hafter, ?_⟩, _, hrest, ?_⟩
    · rw [Function.comp_update, ← hsettings]
      rfl
    · exact hkeeps.filter fun r _ n => congrArg (!·) (HistoryRecord.holds_cells n r id)

theorem get? (h : db.Holds c) (id : Uuid) :
    c.Becomes (.get id) (((Store.get? id : Access Database _) db).1.map .found) c := by
  obtain ⟨item?, hitems, hsettings⟩ := h.items
  rw [hitems.get?]
  cases hi : item? id with
  | none => exact .found (by simp [hsettings, hi]) (by simp)
  | some i =>
      cases hread : Item.ofRow i.row with
      | error e =>
          simp only [Option.mapM_some, hread]
          exact .failed (by simp) (by simp)
      | ok j =>
          obtain ⟨hid, hsame⟩ := Item.eq_of_ofRow_row hread
          simp only [Option.mapM_some, hread]
          refine .found (by simp [hsettings, hi, hsame]) ?_
          rintro k ⟨⟩
          exact hid.trans (hitems.id_eq hi)

theorem listing (h : db.Holds c) :
    c.Becomes .list (((Store.items : Access Database _) db).1.map .listed) c := by
  obtain ⟨item?, hitems, hsettings⟩ := h.items
  obtain ⟨items, hlisted, hmem⟩ := hitems.items
  rw [hlisted]
  refine .listed fun j hj => ?_
  obtain ⟨i, hi, hread⟩ := (hmem j).1 hj
  obtain ⟨hid, hsame⟩ := Item.eq_of_ofRow_row hread
  simp [hsettings, hid, hi, hsame]

theorem purgeBefore (h : db.Holds c) (records events : Time) :
    ∃ rs, rs.Sublist c.records ∧
      ((Store.purgeBefore records events : Access Database _) db).2.Holds
        { c with records := rs } := by
  obtain ⟨item?, ⟨t, ht, hrows⟩, hsettings⟩ := h.items
  obtain ⟨history, hhistory, hkeeps⟩ := h.history
  obtain ⟨hsame, hdropped⟩ := table?_purgeBefore records events hhistory
  refine ⟨c.records.filter fun r => !((Cell.ofTime r.time).order (.ofTime records)).isLT,
    List.filter_sublist, ⟨item?, ⟨t, hsame.trans ht, hrows⟩, hsettings⟩, _, hdropped, ?_⟩
  exact hkeeps.filter fun r _ n => rfl

end Holds

instance : HoldingStore Database where
  Holds := Holds
  ask {db c} op h := by
    rw [StoreOp.ask.eq_def]
    cases op <;> simp only [Access.map_apply]
    case save item =>
      obtain ⟨after, hsaved, hafter⟩ := h.save item
      rw [hsaved]
      exact ⟨_, .saved, hafter⟩
    case update item =>
      exact h.modifyItem (g := fun _ => item.progress) (fun r => by simp [Item.progressRow])
        (fun i => i.progressRow_row item.progress) (fun e => .failed (by simp) (by simp)) .updated
    case reschedule id nextDue lastRun =>
      exact h.modifyItem (g := fun p => { p with nextDue, lastRun })
        (fun r => by simp [Item.scheduleRow]) (fun i => i.scheduleRow_row nextDue lastRun)
        (fun e => .failed (by simp) (by simp)) fun _ => .rescheduled
    case delete id => exact h.delete id
    case get id => exact ⟨c, h.get? id, h⟩
    case list => exact ⟨c, h.listing, h⟩
    case appendHistory r =>
      obtain ⟨history, hhistory, hkeeps⟩ := h.history
      have happended : (Store.appendHistory r : Access Database _) db =
          (.ok (), db.setTable .history (some (history.appendNumbered r.cells))) :=
        execute_of_ok hhistory rfl
      rw [happended]
      exact ⟨_, .appended, h.items, _, rfl, hkeeps.append r⟩
    case history id limit =>
      cases ((Store.history id limit.toNat : Access Database _) db).1 with
      | ok rs => exact ⟨c, .recalled, h⟩
      | error e => exact ⟨c, .failed (by simp) (by simp), h⟩
    case appendEvent e =>
      have hafter : ((Store.appendEvent e : Access Database _) db).2.Holds c :=
        h.of_tables (table?_execute_of_ne (by decide) _ _) (table?_execute_of_ne (by decide) _ _)
      cases hanswer : ((Store.appendEvent e : Access Database _) db).1 with
      | ok x => exact ⟨c, .logged, hafter⟩
      | error e => exact ⟨c, .failed (by simp) (by simp), hafter⟩
    case recentEvents limit =>
      cases ((Store.recentEvents limit.toNat : Access Database _) db).1 with
      | ok rs => exact ⟨c, .recent, h⟩
      | error e => exact ⟨c, .failed (by simp) (by simp), h⟩
    case purgeBefore records events =>
      obtain ⟨rs, hrs, hafter⟩ := h.purgeBefore records events
      exact ⟨_, .purged hrs, hafter⟩
  nodeName? node h := h
  markChanged node now h :=
    h.of_tables (table?_execute_of_ne (by decide) _ _) (table?_execute_of_ne (by decide) _ _)

theorem fresh_holds : HoldingStore.Holds fresh .empty := holds_fresh

end Database

end Vigil
