import Mathlib.Data.List.Nodup
import Vigil.Proofs.Store.Numbered
import Vigil.Proofs.Store.Rows
import Vigil.Proofs.Store.World
import Vigil.Store.Database

/-!
# A database that mirrors a store in memory

A database mirrors a store in memory if its rows are those of the items, of the records
and of the events of the store, the last two in order. Every operation answers the same
on both, and the one still mirrors the other afterwards. The rows are read back because
all that was written is storable; the newest rows are the last ones because records of
one item, and events, were appended in the order of their times.
-/

namespace Vigil

/-! ### The items of a store -/

namespace MemoryStore

variable {s : MemoryStore} {items : List Item}

/-- The items of a store are those that are found under their ids, each of them once. -/
theorem perm_itemList (hnodup : (items.map Item.id).Nodup)
    (hmem : ∀ i, i ∈ items ↔ s.itemMap[i.id]? = some i) : items.Perm s.itemList :=
  (List.perm_ext_iff_of_nodup (.of_map _ hnodup) (.of_map _ s.nodup_itemList)).2 fun i =>
    (hmem i).trans mem_itemList.symm

theorem nodup_of_perm (h : items.Perm s.itemList) : (items.map Item.id).Nodup :=
  (h.map Item.id).nodup_iff.2 s.nodup_itemList

theorem mem_of_perm (h : items.Perm s.itemList) (i : Item) :
    i ∈ items ↔ s.itemMap[i.id]? = some i :=
  h.mem_iff.trans mem_itemList

/-- At most one item has an id. -/
theorem filter_of_perm (h : items.Perm s.itemList) (id : Uuid) :
    items.filter (·.id == id) = s.itemMap[id]?.toList := by
  have hmem (i : Item) : i ∈ items.filter (·.id == id) ↔ i ∈ s.itemMap[id]?.toList := by
    rw [List.mem_filter, mem_of_perm h, beq_iff_eq, Option.mem_toList]
    constructor
    · rintro ⟨hget, rfl⟩
      exact hget
    · intro hget
      have hid := s.keyed hget
      exact ⟨by rw [hid]; exact hget, hid⟩
  have hnodup : (items.filter (·.id == id)).Nodup :=
    (List.Nodup.of_map _ (nodup_of_perm h)).filter _
  have hperm := (List.perm_ext_iff_of_nodup hnodup (by cases s.itemMap[id]? <;> simp)).2 hmem
  cases hget : s.itemMap[id]? with
  | none => rwa [hget, Option.toList_none, List.perm_nil] at hperm
  | some i => rwa [hget, Option.toList_some, List.perm_singleton] at hperm

theorem perm_put (h : items.Perm s.itemList) {item : Item} {after : List Item}
    (hnodup : (after.map Item.id).Nodup)
    (hmem : ∀ i, i ∈ after ↔ i = item ∨ (i ∈ items ∧ i.id ≠ item.id)) :
    after.Perm (s.put item).itemList := by
  refine perm_itemList hnodup fun i => ?_
  rw [hmem, mem_of_perm h, getElem?_put]
  by_cases hid : item.id = i.id
  · rw [if_pos hid]
    constructor
    · rintro (rfl | ⟨-, hne⟩)
      · rfl
      · exact absurd hid.symm hne
    · intro heq
      exact .inl (Option.some.inj heq).symm
  · rw [if_neg hid]
    constructor
    · rintro (rfl | ⟨hget, -⟩)
      · exact absurd rfl hid
      · exact hget
    · intro hget
      exact .inr ⟨hget, Ne.symm hid⟩

/-- Putting an item in the place of the one with its id. -/
theorem perm_put_map (h : items.Perm s.itemList) {old : Item} (item : Item)
    (hold : s.itemMap[item.id]? = some old) :
    (items.map fun i => if i.id = item.id then item else i).Perm (s.put item).itemList := by
  have hid : old.id = item.id := s.keyed hold
  have hmem : old ∈ items := (mem_of_perm h old).2 (by rw [hid, hold])
  have hids : (items.map fun i => if i.id = item.id then item else i).map Item.id =
      items.map Item.id := by
    rw [List.map_map]
    refine List.map_congr_left fun i _ => ?_
    simp only [Function.comp_apply]
    split
    · next heq => exact heq.symm
    · rfl
  refine perm_put h (by rw [hids]; exact nodup_of_perm h) fun i => ?_
  rw [List.mem_map]
  constructor
  · rintro ⟨j, hj, rfl⟩
    split
    · exact .inl rfl
    · next hne => exact .inr ⟨hj, hne⟩
  · rintro (rfl | ⟨hi, hne⟩)
    · exact ⟨old, hmem, if_pos hid⟩
    · exact ⟨i, hi, if_neg hne⟩

theorem getElem?_drop (s : MemoryStore) (id other : Uuid) :
    (s.drop id).itemMap[other]? = if id = other then none else s.itemMap[other]? := by
  rw [drop, Std.ExtTreeMap.getElem?_erase]
  by_cases h : id = other
  · rw [if_pos (Std.LawfulEqOrd.compare_eq_iff_eq.2 h), if_pos h]
  · rw [if_neg (fun heq => h (Std.LawfulEqOrd.compare_eq_iff_eq.1 heq)), if_neg h]

theorem perm_drop (h : items.Perm s.itemList) (id : Uuid) :
    (items.filter (·.id != id)).Perm (s.drop id).itemList := by
  refine perm_itemList ((nodup_of_perm h).sublist (List.filter_sublist.map _)) fun i => ?_
  rw [List.mem_filter, mem_of_perm h, getElem?_drop]
  by_cases hid : id = i.id
  · rw [if_pos hid, hid]
    simp
  · rw [if_neg hid]
    simpa using fun _ => Ne.symm hid

end MemoryStore

/-! ### The relation -/

/-- A database that holds what a store in memory holds, all of it storable. -/
structure Mirrors (s : MemoryStore) (db : Database) : Prop where
  switchedOn : s.switchedOff = false
  items : ∃ t, ∃ items : List Item, db.items = some t ∧ t.rows = items.map Item.row ∧
    items.Perm s.itemList
  history : ∃ t, db.history = some t ∧ t.Keeps HistoryRecord.cells s.records
  events : ∃ t, db.events = some t ∧ t.Keeps Event.cells s.eventLog
  progress : ∀ i ∈ s.itemList, i.progress.Storable
  records : ∀ r ∈ s.records, r.Storable
  eventLog : ∀ e ∈ s.eventLog, e.time.IsWhole

theorem MemoryStore.itemList_empty (visiting : Visiting) : (empty visiting).itemList = [] := by
  refine List.Perm.eq_nil ((visiting.perm _).trans ?_)
  simp [empty]

theorem mirrors_empty (visiting : Visiting) : Mirrors (.empty visiting) .fresh where
  switchedOn := rfl
  items := ⟨.empty, [], rfl, rfl, .of_eq (MemoryStore.itemList_empty visiting).symm⟩
  history := ⟨.empty, rfl, Table.keeps_empty _⟩
  events := ⟨.empty, rfl, Table.keeps_empty _⟩
  progress := by simp [MemoryStore.itemList_empty]
  records := by simp [MemoryStore.empty]
  eventLog := by simp [MemoryStore.empty]

/-- The same answer, from a store in memory and a database that mirrors it afterwards. -/
structure Alike {α : Type} (p : Except StoreError α × MemoryStore)
    (q : Except StoreError α × Database) : Prop where
  answer : p.1 = q.1
  mirrors : Mirrors p.2 q.2

namespace Database

variable {α : Type} {name : TableName} {db : Database} {t t' : Table}

theorem query_of_table? (f : Table → Except StoreError α) (h : db.table? name = some t) :
    query name f db = (f t, db) := by
  simp only [query, Access.look, existing, h, Except.bind]

theorem execute_of_ok {f : Table → Except StoreError (α × Table)} {a : α}
    (h : db.table? name = some t) (hf : f t = .ok (a, t')) :
    execute name f db = (.ok a, db.setTable name (some t')) := by
  simp only [execute, Access.change, existing, h, hf, bind, Except.bind, pure, Except.pure]

theorem execute_of_error {f : Table → Except StoreError (α × Table)} {e : StoreError}
    (h : db.table? name = some t) (hf : f t = .error e) :
    execute name f db = (.error e, db) := by
  simp only [execute, Access.change, existing, h, hf, bind, Except.bind]

/-- Deleting looks for the item first, and takes its history with it. -/
theorem deleteItem_of_tables {history : Table} (hitems : db.items = some t)
    (hhistory : db.history = some history) (id : Uuid) :
    deleteItem id db =
      if (t.select 0 (.ofUuid id)).isEmpty then (.error (.notFound id), db)
      else (.ok (), { db with
        history := some (history.discard (Table.holds 1 (.ofUuid id)))
        items := some (t.discard (Table.holds 0 (.ofUuid id))) }) := by
  simp only [deleteItem, Access.change, existing, table?, hitems, hhistory, bind, Except.bind]
  by_cases hempty : (t.select 0 (.ofUuid id)).isEmpty = true
  · simp only [if_pos hempty]
  · simp only [if_neg hempty]
    rfl

end Database

namespace Mirrors

variable {s : MemoryStore} {db : Database}

/-! ### Items -/

theorem select_rows {items : List Item} (h : items.Perm s.itemList) {t : Table}
    (hrows : t.rows = items.map Item.row) (id : Uuid) :
    t.select 0 (.ofUuid id) = s.itemMap[id]?.toList.map Item.row := by
  have hholds : Table.holds 0 (.ofUuid id) ∘ Item.row = (·.id == id) :=
    funext fun i => i.holds_row id
  rw [Table.select, hrows, List.filter_map, hholds, MemoryStore.filter_of_perm h]

theorem get? (h : Mirrors s db) (id : Uuid) :
    Alike ((Store.get? id : Access MemoryStore _) s) ((Store.get? id : Access Database _) db) := by
  obtain ⟨t, items, htable, hrows, hperm⟩ := h.items
  have hdb : (Store.get? id : Access Database _) db =
      (Database.findRow 0 (.ofUuid id) Item.ofRow t, db) := Database.query_of_table? _ htable
  rw [MemoryStore.get?_of_on h.switchedOn, hdb, Database.findRow, select_rows hperm hrows]
  refine ⟨?_, h⟩
  cases hget : s.itemMap[id]? with
  | none => rfl
  | some i =>
      have hmem : i ∈ s.itemList := by
        rw [MemoryStore.mem_itemList, s.keyed hget]
        exact hget
      have hrow : Item.ofRow i.row = .ok i := Item.ofRow_row (h.progress i hmem)
      simp only [Option.toList_some, List.map_cons, List.head?_cons, Option.mapM_some, hrow]
      rfl

/-- An item listing reads every row, and so gives all items. -/
theorem items_perm (h : Mirrors s db) :
    ∃ listed items, (Store.items : Access MemoryStore _) s = (.ok listed, s) ∧
      (Store.items : Access Database _) db = (.ok items, db) ∧ listed.Perm items := by
  obtain ⟨t, items, htable, hrows, hperm⟩ := h.items
  have hread : Database.readItems t = .ok items := by
    have hstorable : ∀ i ∈ items, i.progress.Storable :=
      fun i hi => h.progress i (hperm.mem_iff.1 hi)
    rw [Database.readItems, hrows]
    clear hrows hperm
    induction items with
    | nil => rfl
    | cons i rest ih =>
        rw [List.map_cons, List.foldrM_cons, ih fun j hj => hstorable j (List.mem_cons_of_mem i hj)]
        simp only [bind, Except.bind, Item.ofRow_row (hstorable i List.mem_cons_self)]
  refine ⟨s.itemList, items, MemoryStore.whenOn_of_ok h.switchedOn rfl, ?_, hperm.symm⟩
  have hdb : (Store.items : Access Database _) db = (Database.readItems t, db) :=
    Database.query_of_table? _ htable
  rw [hdb, hread]

/-- A store and its mirror with other items. -/
theorem with_items (h : Mirrors s db) {s' : MemoryStore} {t : Table} {items : List Item}
    (hrows : t.rows = items.map Item.row) (hperm : items.Perm s'.itemList)
    (hprogress : ∀ i ∈ s'.itemList, i.progress.Storable) (hoff : s'.switchedOff = s.switchedOff)
    (hrecords : s'.records = s.records) (hevents : s'.eventLog = s.eventLog) :
    Mirrors s' { db with items := some t } where
  switchedOn := hoff.trans h.switchedOn
  items := ⟨t, items, rfl, hrows, hperm⟩
  history := hrecords ▸ h.history
  events := hevents ▸ h.events
  progress := hprogress
  records := hrecords ▸ h.records
  eventLog := hevents ▸ h.eventLog

theorem storable_put (h : Mirrors s db) {item : Item} (hitem : item.progress.Storable) :
    ∀ i ∈ (s.put item).itemList, i.progress.Storable := by
  intro i hi
  rw [MemoryStore.mem_itemList, MemoryStore.getElem?_put] at hi
  split at hi
  · rw [← Option.some.inj hi]
    exact hitem
  · exact h.progress i (MemoryStore.mem_itemList.2 hi)

theorem save (h : Mirrors s db) {item : Item} (hitem : item.progress.Storable) :
    Alike ((Store.save item : Access MemoryStore _) s)
      ((Store.save item : Access Database _) db) := by
  obtain ⟨t, items, htable, hrows, hperm⟩ := h.items
  have hmemory : (Store.save item : Access MemoryStore _) s = (.ok (), s.put item) :=
    MemoryStore.whenOn_of_ok h.switchedOn rfl
  have hdb : (Store.save item : Access Database _) db =
      (.ok (), db.setTable .items (some (t.replace item.row))) :=
    Database.execute_of_ok htable rfl
  have hafter : (t.replace item.row).rows =
      (items.filter (fun i => i.id != item.id) ++ [item]).map Item.row := by
    have hholds : (fun r : Row => !(r[0]? == item.row[0]?)) ∘ Item.row =
        fun i => i.id != item.id :=
      funext fun i => congrArg (!·) (i.holds_row item.id)
    rw [Table.replace, Table.append, Table.discard, hrows, List.filter_map, hholds]
    simp
  rw [hmemory, hdb]
  refine ⟨rfl, h.with_items hafter (MemoryStore.perm_put hperm ?_ ?_) (h.storable_put hitem) rfl
    rfl rfl⟩
  · rw [List.map_append, List.nodup_append]
    refine ⟨(MemoryStore.nodup_of_perm hperm).sublist (List.filter_sublist.map _), by simp, ?_⟩
    intro id hid other hother
    obtain ⟨i, hi, rfl⟩ := List.mem_map.1 hid
    rw [List.map_singleton, List.mem_singleton] at hother
    rw [hother]
    simpa using (List.mem_filter.1 hi).2
  · intro i
    simp [or_comm]

/-- A change of the progress of an item is one of its row. -/
theorem modifyItem (h : Mirrors s db) (id : Uuid) {f : Row → Row} {g : Progress → Progress}
    (hrow : ∀ i : Item, f i.row = { i with progress := g i.progress }.row)
    (hstorable : ∀ p : Progress, p.Storable → (g p).Storable) :
    Alike (MemoryStore.modifyItem id g s) (Database.modifyItem id f db) := by
  obtain ⟨t, items, htable, hrows, hperm⟩ := h.items
  have hselect := select_rows hperm hrows id
  cases hget : s.itemMap[id]? with
  | none =>
      have hmemory : MemoryStore.modifyItem id g s = (.error (.notFound id), s) :=
        MemoryStore.whenOn_of_error h.switchedOn (by rw [hget])
      have hdb : Database.modifyItem id f db = (.error (.notFound id), db) := by
        refine Database.execute_of_error (t := t) htable ?_
        rw [hselect, hget]
        rfl
      rw [hmemory, hdb]
      exact ⟨rfl, h⟩
  | some item =>
      obtain rfl : item.id = id := s.keyed hget
      have hitem : item.progress.Storable :=
        h.progress item (MemoryStore.mem_itemList.2 hget)
      have hmemory : MemoryStore.modifyItem item.id g s =
          (.ok (), s.put { item with progress := g item.progress }) :=
        MemoryStore.whenOn_of_ok h.switchedOn (by rw [hget])
      have hdb : Database.modifyItem item.id f db =
          (.ok (), db.setTable .items (some (t.modify 0 (.ofUuid item.id) f))) := by
        refine Database.execute_of_ok (t := t) htable ?_
        rw [hselect, hget]
        rfl
      have hafter : (t.modify 0 (.ofUuid item.id) f).rows =
          (items.map fun i =>
            if i.id = item.id then { item with progress := g item.progress } else i).map
              Item.row := by
        rw [Table.modify, hrows, List.map_map, List.map_map]
        refine List.map_congr_left fun i hi => ?_
        simp only [Function.comp_apply, Item.holds_row, beq_iff_eq]
        split
        · next heq =>
          have hmem := (MemoryStore.mem_of_perm hperm i).1 hi
          rw [heq, hget] at hmem
          rw [hrow, ← Option.some.inj hmem]
        · rfl
      rw [hmemory, hdb]
      exact ⟨rfl, h.with_items hafter
        (MemoryStore.perm_put_map hperm { item with progress := g item.progress } hget)
        (h.storable_put (hstorable _ hitem)) rfl rfl rfl⟩

theorem update (h : Mirrors s db) {item : Item} (hitem : item.progress.Storable) :
    Alike ((Store.update item : Access MemoryStore _) s)
      ((Store.update item : Access Database _) db) :=
  h.modifyItem item.id (fun i => i.progressRow_row item.progress) fun _ _ => hitem

theorem reschedule (h : Mirrors s db) (id : Uuid) {nextDue : Time} {lastRun : Option Time}
    (hnextDue : nextDue.IsWhole) (hlastRun : ∀ t ∈ lastRun, t.IsWhole) :
    Alike ((Store.reschedule id nextDue lastRun : Access MemoryStore _) s)
      ((Store.reschedule id nextDue lastRun : Access Database _) db) :=
  h.modifyItem id (fun i => i.scheduleRow_row nextDue lastRun)
    fun _ hp => ⟨hnextDue, hlastRun, hp.readings⟩

/-! ### Records and events -/

theorem delete (h : Mirrors s db) (id : Uuid) :
    Alike ((Store.delete id : Access MemoryStore _) s)
      ((Store.delete id : Access Database _) db) := by
  obtain ⟨t, items, htable, hrows, hperm⟩ := h.items
  obtain ⟨history, hhistory, hkeeps⟩ := h.history
  have hselect := select_rows hperm hrows id
  have hdb : (Store.delete id : Access Database _) db = _ :=
    Database.deleteItem_of_tables htable hhistory id
  rw [hselect] at hdb
  cases hget : s.itemMap[id]? with
  | none =>
      have hcontains : s.itemMap.contains id = false := by
        rw [← Std.ExtTreeMap.isSome_getElem?_eq_contains, hget]
        rfl
      have hmemory : (Store.delete id : Access MemoryStore _) s = (.error (.notFound id), s) :=
        MemoryStore.whenOn_of_error h.switchedOn (by rw [hcontains]; rfl)
      rw [hmemory, hdb, hget]
      exact ⟨rfl, h⟩
  | some item =>
      have hcontains : s.itemMap.contains id = true := by
        rw [← Std.ExtTreeMap.isSome_getElem?_eq_contains, hget]
        rfl
      have hmemory : (Store.delete id : Access MemoryStore _) s = (.ok (), s.drop id) :=
        MemoryStore.whenOn_of_ok h.switchedOn (by rw [hcontains]; rfl)
      have hafter : (t.discard (Table.holds 0 (.ofUuid id))).rows =
          (items.filter (·.id != id)).map Item.row := by
        have hholds : (fun r => !Table.holds 0 (.ofUuid id) r) ∘ Item.row = (·.id != id) :=
          funext fun i => congrArg (!·) (i.holds_row id)
        rw [Table.discard, hrows, List.filter_map, hholds]
      have hhistoryAfter : (history.discard (Table.holds 1 (.ofUuid id))).Keeps
          HistoryRecord.cells (s.drop id).records :=
        hkeeps.filter fun r _ n => congrArg (!·) (HistoryRecord.holds_cells n r id)
      rw [hmemory, hdb, hget]
      refine ⟨rfl, ?_⟩
      exact {
        switchedOn := h.switchedOn
        items := ⟨_, _, rfl, hafter, MemoryStore.perm_drop hperm id⟩
        history := ⟨_, rfl, hhistoryAfter⟩
        events := h.events
        progress := by
          intro i hi
          have hi' := (MemoryStore.perm_drop hperm id).mem_iff.2 hi
          exact h.progress i (hperm.mem_iff.1 (List.mem_filter.1 hi').1)
        records := fun r hr => h.records r (List.mem_filter.1 hr).1
        eventLog := h.eventLog }

theorem appendHistory (h : Mirrors s db) {r : HistoryRecord} (hr : r.Storable) :
    Alike ((Store.appendHistory r : Access MemoryStore _) s)
      ((Store.appendHistory r : Access Database _) db) := by
  obtain ⟨t, htable, hkeeps⟩ := h.history
  have hmemory : (Store.appendHistory r : Access MemoryStore _) s =
      (.ok (), { s with records := s.records ++ [r] }) :=
    MemoryStore.whenOn_of_ok h.switchedOn rfl
  have hdb : (Store.appendHistory r : Access Database _) db =
      (.ok (), db.setTable .history (some (t.appendNumbered r.cells))) :=
    Database.execute_of_ok htable rfl
  rw [hmemory, hdb]
  exact ⟨rfl, { h with
    history := ⟨_, rfl, hkeeps.append r⟩
    records := List.forall_mem_append.2 ⟨h.records, List.forall_mem_singleton.2 hr⟩ }⟩

theorem appendEvent (h : Mirrors s db) {e : Event} (he : e.time.IsWhole) :
    Alike ((Store.appendEvent e : Access MemoryStore _) s)
      ((Store.appendEvent e : Access Database _) db) := by
  obtain ⟨t, htable, hkeeps⟩ := h.events
  have hmemory : (Store.appendEvent e : Access MemoryStore _) s =
      (.ok (), { s with eventLog := s.eventLog ++ [e] }) :=
    MemoryStore.whenOn_of_ok h.switchedOn rfl
  have hdb : (Store.appendEvent e : Access Database _) db =
      (.ok (), db.setTable .events (some (t.appendNumbered e.cells))) :=
    Database.execute_of_ok htable rfl
  rw [hmemory, hdb]
  exact ⟨rfl, { h with
    events := ⟨_, rfl, hkeeps.append e⟩
    eventLog := List.forall_mem_append.2 ⟨h.eventLog, List.forall_mem_singleton.2 he⟩ }⟩

/-- The newest records of an item are read from the rows that the item has. -/
theorem history_alike (h : Mirrors s db) (id : Uuid) (limit : UInt64)
    (hroom : s.records.length < 2 ^ 63)
    (hsorted : s.records.Pairwise fun r x => r.item = x.item → r.time ≤ x.time) :
    Alike ((Store.history id limit.toNat : Access MemoryStore _) s)
      ((Store.history id limit.toNat : Access Database _) db) := by
  obtain ⟨t, htable, hkeeps⟩ := h.history
  have hmemory : (Store.history id limit.toNat : Access MemoryStore _) s =
      (.ok ((s.records.reverse.filter (·.item == id)).take limit.toNat), s) :=
    MemoryStore.whenOn_of_ok h.switchedOn rfl
  have hdb : (Store.history id limit.toNat : Access Database _) db =
      ((Table.limited limit.toNat (Table.newestFirst 2 (t.select 1 (.ofUuid id)))).mapM
        (HistoryRecord.ofRow id), db) :=
    Database.query_of_table? _ htable
  have hselected : Table.Keeps ⟨t.select 1 (.ofUuid id), t.lastNumber⟩ HistoryRecord.cells
      (s.records.filter (·.item == id)) :=
    hkeeps.filter fun r _ n => HistoryRecord.holds_cells n r id
  have hrising : (s.records.filter (·.item == id)).Pairwise fun r x =>
      r.time.millis ≤ x.time.millis := by
    refine ((List.pairwise_filter.2 (hsorted.imp_of_mem ?_)))
    intro r x hr hx hle hrid hxid
    rw [Time.millis_le_iff (h.records r hr).time (h.records x hx).time]
    exact hle ((beq_iff_eq.1 hrid).trans (beq_iff_eq.1 hxid).symm)
  have hnewest := Table.newestFirst_eq_reverse hselected 1 (fun r => r.time.millis)
    (fun r => rfl) hrising
  have hlength : (t.select 1 (.ofUuid id)).reverse.length < 2 ^ 63 := by
    rw [List.length_reverse, hselected.length_eq]
    exact Nat.lt_of_le_of_lt (List.length_filter_le _ _) hroom
  have hread : ∀ r ∈ s.records.filter (·.item == id), ∀ n,
      HistoryRecord.ofRow id (n :: r.cells) = .ok r := by
    intro r hr n
    obtain ⟨hmem, hid⟩ := List.mem_filter.1 hr
    rw [← beq_iff_eq.1 hid]
    exact HistoryRecord.ofRow_cells (h.records r hmem) n
  rw [hmemory, hdb, hnewest, Table.limited_eq_take limit hlength,
    Table.mapM_take_reverse hselected hread, List.filter_reverse]
  exact ⟨rfl, h⟩

/-- The newest events are read from all rows. -/
theorem recentEvents_alike (h : Mirrors s db) (limit : UInt64)
    (hroom : s.eventLog.length < 2 ^ 63)
    (hsorted : s.eventLog.Pairwise fun d e => d.time ≤ e.time) :
    Alike ((Store.recentEvents limit.toNat : Access MemoryStore _) s)
      ((Store.recentEvents limit.toNat : Access Database _) db) := by
  obtain ⟨t, htable, hkeeps⟩ := h.events
  have hmemory : (Store.recentEvents limit.toNat : Access MemoryStore _) s =
      (.ok (s.eventLog.reverse.take limit.toNat), s) :=
    MemoryStore.whenOn_of_ok h.switchedOn rfl
  have hdb : (Store.recentEvents limit.toNat : Access Database _) db =
      ((Table.limited limit.toNat (Table.newestFirst 1 t.rows)).mapM Event.ofRow, db) :=
    Database.query_of_table? _ htable
  have hrising : s.eventLog.Pairwise fun d e => d.time.millis ≤ e.time.millis := by
    refine hsorted.imp_of_mem ?_
    intro d e hd he hle
    exact (Time.millis_le_iff (h.eventLog d hd) (h.eventLog e he)).2 hle
  have hnewest := Table.newestFirst_eq_reverse hkeeps 0 (fun e => e.time.millis) (fun e => rfl)
    hrising
  have hlength : t.rows.reverse.length < 2 ^ 63 := by
    rw [List.length_reverse, hkeeps.length_eq]
    exact hroom
  have hread : ∀ e ∈ s.eventLog, ∀ n, Event.ofRow (n :: e.cells) = .ok e :=
    fun e he n => Event.ofRow_cells (h.eventLog e he) n
  rw [hmemory, hdb, hnewest, Table.limited_eq_take limit hlength,
    Table.mapM_take_reverse hkeeps hread]
  exact ⟨rfl, h⟩

/-- A time is kept by a cut-off exactly if it is not before it. -/
theorem isLT_order {time cutoff : Time} (htime : time.IsWhole) (hcutoff : cutoff.IsWhole) :
    (!((Cell.ofTime time).order (.ofTime cutoff)).isLT) = decide (cutoff ≤ time) := by
  have hlt : (compare time.millis cutoff.millis).isLT = decide (time.millis < cutoff.millis) := by
    rw [Bool.eq_iff_iff, decide_eq_true_iff, Ordering.isLT_iff_eq_lt, Int.compare_eq_lt]
  rw [Cell.ofTime, Cell.ofTime, Cell.order, hlt, ← decide_not, decide_eq_decide,
    Int.not_lt, Time.millis_le_iff hcutoff htime]

/-- What is dropped before a cut-off is what the store in memory drops. -/
theorem dropBefore_of_keeps {α : Type} {write : α → Row} {xs : List α} {t : Table}
    {name : TableName} (htable : db.table? name = some t) (hkeeps : t.Keeps write xs)
    (column : Nat) (time : α → Time) (hcell : ∀ x, (write x)[column]? = some (.ofTime (time x)))
    (hwhole : ∀ x ∈ xs, (time x).IsWhole) {cutoff : Time} (hcutoff : cutoff.IsWhole) :
    ∃ kept : Table, kept.Keeps write (xs.filter fun x => decide (cutoff ≤ time x)) ∧
      Database.dropBefore name (column + 1) cutoff db =
        (.ok (xs.length - (xs.filter fun x => decide (cutoff ≤ time x)).length),
          db.setTable name (some kept)) := by
  have hkept : (t.discard fun r =>
      ((r[column + 1]?.getD Cell.null).order (.ofTime cutoff)).isLT).Keeps write
        (xs.filter fun x => decide (cutoff ≤ time x)) := by
    refine hkeeps.filter fun x hx n => ?_
    dsimp only
    rw [List.getElem?_cons_succ, hcell, Option.getD_some, isLT_order (hwhole x hx) hcutoff]
  refine ⟨_, hkept, Database.execute_of_ok htable ?_⟩
  rw [← hkeeps.length_eq, ← hkept.length_eq]

theorem purgeBefore (h : Mirrors s db) {records events : Time} (hrecords : records.IsWhole)
    (hevents : events.IsWhole) :
    Alike ((Store.purgeBefore records events : Access MemoryStore _) s)
      ((Store.purgeBefore records events : Access Database _) db) := by
  obtain ⟨history, hhistory, hkeepsRecords⟩ := h.history
  obtain ⟨eventLog, heventLog, hkeepsEvents⟩ := h.events
  have hhistoryTable : db.table? .history = some history := hhistory
  obtain ⟨keptRecords, hkeptRecords, hfirst⟩ := dropBefore_of_keeps hhistoryTable
    hkeepsRecords 1 HistoryRecord.time (fun r => rfl) (fun r hr => (h.records r hr).time) hrecords
  have heventsTable : (db.setTable .history (some keptRecords)).table? .events = some eventLog :=
    heventLog
  obtain ⟨keptEvents, hkeptEvents, hsecond⟩ := dropBefore_of_keeps heventsTable hkeepsEvents
    0 Event.time (fun e => rfl) h.eventLog hevents
  have hmemory : (Store.purgeBefore records events : Access MemoryStore _) s = _ :=
    MemoryStore.whenOn_of_ok h.switchedOn rfl
  have hdb : (Store.purgeBefore records events : Access Database _) db = _ :=
    (Access.bind_of_ok hfirst).trans (Access.bind_of_ok hsecond)
  rw [hmemory, hdb]
  constructor
  · have hfewerRecords := s.records.length_filter_le fun r => decide (records ≤ r.time)
    have hfewerEvents := s.eventLog.length_filter_le fun e => decide (events ≤ e.time)
    refine congrArg Except.ok ?_
    omega
  · exact { h with
      history := ⟨_, rfl, hkeptRecords⟩
      events := ⟨_, rfl, hkeptEvents⟩
      records := fun r hr => h.records r (List.mem_filter.1 hr).1
      eventLog := fun e he => h.eventLog e (List.mem_filter.1 he).1 }

end Mirrors

end Vigil
