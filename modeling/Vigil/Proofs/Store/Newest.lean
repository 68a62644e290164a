import Vigil.Proofs.Scheduler.Tick
import Vigil.Proofs.Store.ReadBack
import Vigil.Proofs.Time.Instant

/-!
# The newest first

A listing of records or of events is to give the newest ones, the newest first. A database sorts
them by their times, so it does, as far as it can read what was written: it keeps whole
milliseconds, no time inside a leap second and no number that is not finite. The store in memory
lists what it was given from the last one to the first. That is the same only if they were given to
it in the order of their times.
-/

namespace Vigil

/-! ### Listings -/

/-- The first of all, as many as a limit says, if they are sorted from the newest to the oldest.
What has the same time may come in any order. -/
structure Newest {α : Type} (time : α → Time) (limit : Nat) (all listing : List α) : Prop where
  falling : listing.Pairwise fun x y => time y ≤ time x
  length_eq : listing.length = min limit all.length
  latest : ∃ rest, (listing ++ rest).Perm all ∧ ∀ x ∈ listing, ∀ y ∈ rest, time y ≤ time x

/-- Whatever the limit, what is listed are the newest. -/
def ListsNewest {α : Type} (ask : Nat → Except StoreError (List α)) (time : α → Time)
    (all : List α) : Prop :=
  ∀ limit : UInt64, ∃ listing, ask limit.toNat = .ok listing ∧ Newest time limit.toNat all listing

section

variable {α : Type} {time : α → Time} {all sorted : List α}

theorem newest_take (hperm : sorted.Perm all)
    (hfalling : sorted.Pairwise fun x y => time y ≤ time x) (limit : Nat) :
    Newest time limit all (sorted.take limit) where
  falling := hfalling.sublist (List.take_sublist _ _)
  length_eq := by rw [List.length_take, hperm.length_eq]
  latest := by
    refine ⟨sorted.drop limit, by rwa [List.take_append_drop], ?_⟩
    rw [← List.take_append_drop limit sorted, List.pairwise_append] at hfalling
    exact hfalling.2.2

/-- The greatest limit is none. -/
theorem ListsNewest.exists_perm {ask : Nat → Except StoreError (List α)}
    (h : ListsNewest ask time all) (hfits : all.length < 2 ^ 63) :
    ∃ listing, ask (2 ^ 64 - 1) = .ok listing ∧ listing.Perm all ∧
      listing.Pairwise fun x y => time y ≤ time x := by
  obtain ⟨listing, hanswer, hnewest⟩ := h (UInt64.ofNat (2 ^ 64 - 1))
  have hlimit : (UInt64.ofNat (2 ^ 64 - 1)).toNat = 2 ^ 64 - 1 := rfl
  rw [hlimit] at hanswer hnewest
  obtain ⟨rest, hperm, -⟩ := hnewest.latest
  have hrest : rest = [] := by
    have hlength := hperm.length_eq
    rw [List.length_append, hnewest.length_eq] at hlength
    exact List.eq_nil_of_length_eq_zero (by omega)
  rw [hrest, List.append_nil] at hperm
  exact ⟨listing, hanswer, hperm, hnewest.falling⟩

theorem listsNewest_congr {ask other : Nat → Except StoreError (List α)}
    (h : ∀ limit : UInt64, ask limit.toNat = other limit.toNat) :
    ListsNewest ask time all ↔ ListsNewest other time all :=
  forall_congr' fun limit => by rw [h limit]

/-- The last ones are the newest exactly if all came in the order of their times. -/
theorem listsNewest_take_reverse_iff (hfits : all.length < 2 ^ 63) :
    ListsNewest (fun limit => .ok (all.reverse.take limit)) time all ↔
      all.Pairwise fun x y => time x ≤ time y := by
  constructor
  · intro h
    obtain ⟨listing, hanswer, -, hfalling⟩ := h.exists_perm hfits
    have hall : all.reverse.length ≤ 2 ^ 64 - 1 := by
      rw [List.length_reverse]
      omega
    have hlisting : all.reverse = listing := by
      rw [← Except.ok.inj hanswer, List.take_of_length_le hall]
    rw [← hlisting, List.pairwise_reverse] at hfalling
    exact hfalling
  · intro h limit
    exact ⟨_, rfl, newest_take (List.reverse_perm all) (List.pairwise_reverse.2 h) _⟩

end

/-! ### What was written is read -/

theorem StoreError.isPlain_of_ofTimestamp {millis : Int} {t : Time}
    (h : ofTimestamp millis = .ok t) : t.IsPlain := by
  unfold ofTimestamp Time.ofMillis? Time.ofParts? at h
  split at h
  · next heq =>
    split at heq
    · cases heq
      cases h
      have hpart := Int.fmod_lt_of_pos millis (by decide : (0 : Int) < 1000)
      simp only [Time.IsPlain, nanosPerSecond]
      omega
    · cases heq
  · cases h

theorem Time.isPlain_floorMillis_iff {t : Time} : t.floorMillis.IsPlain ↔ t.IsPlain := by
  simp only [IsPlain, floorMillis, nanosPerSecond]
  omega

theorem Time.floorMillis_le_iff {s t : Time} (hs : s.IsPlain) (ht : t.IsPlain) :
    s.floorMillis ≤ t.floorMillis ↔ s.millis ≤ t.millis := by
  rw [← millis_le_iff (isWhole_floorMillis hs) (isWhole_floorMillis ht), millis_floorMillis,
    millis_floorMillis]

section

variable {α : Type} {time : α → Time} {reread : α → Except StoreError α} {floor : α → α}
  {all sorted : List α}

/-- Sorted values that are all read are listed from the newest to the oldest. -/
theorem listsNewest_mapM (hperm : sorted.Perm all)
    (hfalling : sorted.Pairwise fun x y => time (floor y) ≤ time (floor x))
    (hread : ∀ x ∈ all, reread x = .ok (floor x)) :
    ListsNewest (fun limit => (sorted.take limit).mapM reread) time (all.map floor) := by
  intro limit
  refine ⟨(sorted.map floor).take limit.toNat, ?_, newest_take (hperm.map floor)
    (List.pairwise_map.2 hfalling) _⟩
  rw [← List.map_take]
  exact Except.mapM_of_ok fun x hx => hread x (hperm.mem_iff.1 (List.mem_of_mem_take hx))

/-- If all are listed, then all are read, and none of them has a time that no reading has. -/
theorem ListsNewest.exists_reread
    (h : ListsNewest (fun limit => (sorted.take limit).mapM reread) time (all.map floor))
    (hperm : sorted.Perm all) (hfits : all.length < 2 ^ 63)
    (hplain : ∀ x y, reread x = .ok y → (time y).IsPlain) :
    ∀ x ∈ all, (time (floor x)).IsPlain ∧ ∃ y, reread x = .ok y := by
  intro x hx
  obtain ⟨listing, hanswer, hlisted, -⟩ := h.exists_perm (by rwa [List.length_map])
  have hall : sorted.length ≤ 2 ^ 64 - 1 := by
    have := hperm.length_eq
    omega
  rw [List.take_of_length_le hall] at hanswer
  obtain ⟨z, -, hz⟩ := Except.exists_of_mem_mapM hanswer (floor x)
    (hlisted.mem_iff.2 (List.mem_map_of_mem hx))
  exact ⟨hplain z _ hz, Except.ok_of_mapM hanswer x (hperm.mem_iff.2 hx)⟩

end

namespace HistoryRecord

def floorMillis (r : HistoryRecord) : HistoryRecord := { r with time := r.time.floorMillis }

/-- The record that the cells of a row are read as. -/
def reread (r : HistoryRecord) : Except StoreError HistoryRecord := do
  let time ← StoreError.ofTimestamp r.time.millis
  let readings ← StoreError.readReadings r.readings.text
  return { r with time, readings }

variable {r x : HistoryRecord}

theorem ofRow_cells_eq (r : HistoryRecord) (number : Cell) :
    ofRow r.item (number :: r.cells) = r.reread := by
  simp only [ofRow, cells, Cell.ofTime, Cell.text?, Cell.integer?, StoreError.readWord,
    HealthState.ofWord_word, reread, bind, Except.bind, pure, Except.pure]

theorem reread_eq_floorMillis (htime : r.time.IsPlain) (hreadings : r.readings.ReadBack) :
    r.reread = .ok r.floorMillis := by
  rw [reread, StoreError.ofTimestamp_floorMillis_iff.2 htime,
    StoreError.readReadings_text hreadings]
  rfl

theorem isPlain_of_reread (h : r.reread = .ok x) : x.time.IsPlain := by
  obtain ⟨time, htime, h⟩ := Except.ok_of_bind h
  obtain ⟨readings, -, h⟩ := Except.ok_of_bind h
  cases h
  exact StoreError.isPlain_of_ofTimestamp htime

theorem isFinite_of_reread (h : r.reread = .ok x) : ∀ y ∈ r.readings.floats, y.isFinite = true := by
  obtain ⟨time, -, h⟩ := Except.ok_of_bind h
  obtain ⟨readings, hreadings, -⟩ := Except.ok_of_bind h
  exact StoreError.isFinite_of_readReadings hreadings

end HistoryRecord

namespace Event

def floorMillis (e : Event) : Event := { e with time := e.time.floorMillis }

/-- The event that the cells of a row are read as. -/
def reread (e : Event) : Except StoreError Event := do
  let time ← StoreError.ofTimestamp e.time.millis
  return { e with time }

variable {e x : Event}

theorem ofRow_cells_eq (e : Event) (number : Cell) : ofRow (number :: e.cells) = e.reread := by
  simp only [ofRow, cells, Cell.ofTime, Cell.ofUuid, Cell.text?, Cell.integer?,
    StoreError.readUuid_text, reread, bind, Except.bind, pure, Except.pure]

theorem reread_eq_floorMillis (htime : e.time.IsPlain) : e.reread = .ok e.floorMillis := by
  rw [reread, StoreError.ofTimestamp_floorMillis_iff.2 htime]
  rfl

theorem isPlain_of_reread (h : e.reread = .ok x) : x.time.IsPlain := by
  obtain ⟨time, htime, h⟩ := Except.ok_of_bind h
  cases h
  exact StoreError.isPlain_of_ofTimestamp htime

end Event

/-! ### Stores that are given records and events -/

/-- What a store answers when it is asked for the newest records of an item. -/
def newestRecords {σ : Type} [Store σ] (s : σ) (id : Uuid) (limit : Nat) :
    Except StoreError (List HistoryRecord) :=
  ((Store.history id limit : Access σ _) s).1

/-- What a store answers when it is asked for the newest events. -/
def newestEvents {σ : Type} [Store σ] (s : σ) (limit : Nat) : Except StoreError (List Event) :=
  ((Store.recentEvents limit : Access σ _) s).1

/-- A record or an event. -/
inductive Entry where
  | record (r : HistoryRecord)
  | event (e : Event)

namespace Entry

/-- The operation that appends an entry. -/
def op : Entry → StoreOp
  | record r => .appendHistory r
  | event e => .appendEvent e

def record? : Entry → Option HistoryRecord
  | record r => some r
  | event _ => none

def event? : Entry → Option Event
  | record _ => none
  | event e => some e

/-- The records of an item, in the order in which they come. -/
def recordsOf (id : Uuid) (entries : List Entry) : List HistoryRecord :=
  (entries.filterMap record?).filter (·.item == id)

variable {σ : Type} [Store σ]

/-- A store after some entries were appended, one after another. -/
def appendTo (s : σ) (entries : List Entry) : σ := StoreOp.final s (entries.map op)

/-- What each entry adds to, all entries do. -/
theorem appendTo_of_append (logs : σ → List HistoryRecord → List Event → Prop)
    (happend : ∀ {s rs es} (entry : Entry), logs s rs es →
      logs (entry.op.ask s).2 (rs ++ entry.record?.toList) (es ++ entry.event?.toList))
    {s : σ} {rs : List HistoryRecord} {es : List Event} (h : logs s rs es) (entries : List Entry) :
    logs (appendTo s entries) (rs ++ entries.filterMap record?)
      (es ++ entries.filterMap event?) := by
  induction entries generalizing s rs es with
  | nil =>
      rw [List.filterMap_nil, List.filterMap_nil, List.append_nil, List.append_nil]
      exact h
  | cons entry entries ih =>
      have hrest := ih (happend entry h)
      have hrecords : (entry :: entries).filterMap record? =
          entry.record?.toList ++ entries.filterMap record? := by
        cases entry <;> rfl
      have hevents : (entry :: entries).filterMap event? =
          entry.event?.toList ++ entries.filterMap event? := by
        cases entry <;> rfl
      rw [hrecords, hevents, ← List.append_assoc, ← List.append_assoc]
      exact hrest

end Entry

namespace MemoryStore

variable {s : MemoryStore} {rs : List HistoryRecord} {es : List Event}

/-- A store that is on and holds some records and some events. -/
structure Logs (s : MemoryStore) (rs : List HistoryRecord) (es : List Event) : Prop where
  switchedOn : s.switchedOff = false
  records : s.records = rs
  eventLog : s.eventLog = es

theorem logs_empty : empty.Logs [] [] := ⟨rfl, rfl, rfl⟩

namespace Logs

theorem append (h : s.Logs rs es) (entry : Entry) :
    (entry.op.ask s).2.Logs (rs ++ entry.record?.toList) (es ++ entry.event?.toList) := by
  obtain ⟨hon, rfl, rfl⟩ := h
  cases entry with
  | record r =>
      have happend : (Store.appendHistory r : Access MemoryStore _) s =
          (.ok (), { s with records := s.records ++ [r] }) := whenOn_of_ok hon rfl
      rw [Entry.op, StoreOp.ask, Access.map_apply, happend]
      exact ⟨hon, rfl, (List.append_nil _).symm⟩
  | event e =>
      have happend : (Store.appendEvent e : Access MemoryStore _) s =
          (.ok (), { s with eventLog := s.eventLog ++ [e] }) := whenOn_of_ok hon rfl
      rw [Entry.op, StoreOp.ask, Access.map_apply, happend]
      exact ⟨hon, (List.append_nil _).symm, rfl⟩

/-- The records of an item are listed from the last one to the first. -/
theorem listsNewest_history_iff (h : s.Logs rs es) (hfits : rs.length < 2 ^ 63) (id : Uuid) :
    ListsNewest (newestRecords s id) HistoryRecord.time (rs.filter (·.item == id)) ↔
      (rs.filter (·.item == id)).Pairwise fun r x => r.time ≤ x.time := by
  obtain ⟨hon, rfl, rfl⟩ := h
  have hanswer (limit : UInt64) : newestRecords s id limit.toNat =
      .ok ((s.records.filter (·.item == id)).reverse.take limit.toNat) := by
    rw [← List.filter_reverse]
    exact congrArg Prod.fst (whenOn_of_ok hon rfl)
  exact (listsNewest_congr hanswer).trans
    (listsNewest_take_reverse_iff (Nat.lt_of_le_of_lt (List.length_filter_le _ _) hfits))

theorem listsNewest_recentEvents_iff (h : s.Logs rs es) (hfits : es.length < 2 ^ 63) :
    ListsNewest (newestEvents s) Event.time es ↔ es.Pairwise fun d e => d.time ≤ e.time := by
  obtain ⟨hon, rfl, rfl⟩ := h
  have hanswer (limit : UInt64) : newestEvents s limit.toNat =
      .ok (s.eventLog.reverse.take limit.toNat) :=
    congrArg Prod.fst (whenOn_of_ok hon rfl)
  exact (listsNewest_congr hanswer).trans (listsNewest_take_reverse_iff hfits)

end Logs

end MemoryStore

namespace Database

variable {db : Database} {rs : List HistoryRecord} {es : List Event}

/-- A database whose tables hold some records and some events. -/
structure Logs (db : Database) (rs : List HistoryRecord) (es : List Event) : Prop where
  history : ∃ t, db.history = some t ∧ t.Keeps HistoryRecord.cells rs
  events : ∃ t, db.events = some t ∧ t.Keeps Event.cells es

theorem logs_fresh : fresh.Logs [] [] where
  history := ⟨.empty, rfl, Table.keeps_empty _⟩
  events := ⟨.empty, rfl, Table.keeps_empty _⟩

namespace Logs

theorem append (h : db.Logs rs es) (entry : Entry) :
    (entry.op.ask db).2.Logs (rs ++ entry.record?.toList) (es ++ entry.event?.toList) := by
  obtain ⟨⟨history, hhistory, hrecords⟩, ⟨log, hlog, hevents⟩⟩ := h
  cases entry with
  | record r =>
      have happend : (Store.appendHistory r : Access Database _) db =
          (.ok (), db.setTable .history (some (history.appendNumbered r.cells))) :=
        execute_of_ok hhistory rfl
      rw [Entry.op, StoreOp.ask, Access.map_apply, happend]
      exact ⟨⟨_, rfl, hrecords.append r⟩, ⟨log, hlog, (List.append_nil es).symm ▸ hevents⟩⟩
  | event e =>
      have happend : (Store.appendEvent e : Access Database _) db =
          (.ok (), db.setTable .events (some (log.appendNumbered e.cells))) :=
        execute_of_ok hlog rfl
      rw [Entry.op, StoreOp.ask, Access.map_apply, happend]
      exact ⟨⟨history, hhistory, (List.append_nil rs).symm ▸ hrecords⟩, ⟨_, rfl, hevents.append e⟩⟩

/-- The records of an item are sorted by their times, and as many are read as the limit says. -/
theorem exists_history (h : db.Logs rs es) (hfits : rs.length < 2 ^ 63) (id : Uuid) :
    ∃ sorted : List HistoryRecord, sorted.Perm (rs.filter (·.item == id)) ∧
      (sorted.Pairwise fun r x => x.time.millis ≤ r.time.millis) ∧
      ∀ limit : UInt64, newestRecords db id limit.toNat =
        (sorted.take limit.toNat).mapM HistoryRecord.reread := by
  obtain ⟨t, htable, hkeeps⟩ := h.history
  have hselected : Table.Keeps ⟨t.select 1 (.ofUuid id), t.lastNumber⟩ HistoryRecord.cells
      (rs.filter (·.item == id)) :=
    hkeeps.filter fun r _ n => HistoryRecord.holds_cells n r id
  have hread : ∀ r ∈ rs.filter (·.item == id), ∀ n,
      HistoryRecord.ofRow id (n :: r.cells) = r.reread := by
    intro r hr n
    rw [← beq_iff_eq.1 (List.mem_filter.1 hr).2]
    exact r.ofRow_cells_eq n
  obtain ⟨sorted, hperm, hfalling, hanswer⟩ := hselected.exists_sorted 1 (fun r => rfl)
    hread (Nat.lt_of_le_of_lt (List.length_filter_le _ _) hfits)
  refine ⟨sorted, hperm, hfalling, fun limit => ?_⟩
  have hquery : (Store.history id limit.toNat : Access Database _) db = (_, db) :=
    query_of_table? _ htable
  rw [newestRecords, hquery, ← hanswer limit]

theorem exists_recentEvents (h : db.Logs rs es) (hfits : es.length < 2 ^ 63) :
    ∃ sorted : List Event, sorted.Perm es ∧
      (sorted.Pairwise fun d e => e.time.millis ≤ d.time.millis) ∧
      ∀ limit : UInt64, newestEvents db limit.toNat =
        (sorted.take limit.toNat).mapM Event.reread := by
  obtain ⟨t, htable, hkeeps⟩ := h.events
  obtain ⟨sorted, hperm, hfalling, hanswer⟩ := hkeeps.exists_sorted 0 (fun e => rfl)
    (fun e _ n => e.ofRow_cells_eq n) hfits
  refine ⟨sorted, hperm, hfalling, fun limit => ?_⟩
  have hquery : (Store.recentEvents limit.toNat : Access Database _) db = (_, db) :=
    query_of_table? _ htable
  rw [newestEvents, hquery, ← hanswer limit]

/-- Records that are read back are listed from the newest to the oldest. -/
theorem listsNewest_history (h : db.Logs rs es) (hfits : rs.length < 2 ^ 63) {id : Uuid}
    (hread : ∀ r ∈ rs.filter (·.item == id), r.time.IsPlain ∧ r.readings.ReadBack) :
    ListsNewest (newestRecords db id) HistoryRecord.time
      ((rs.filter (·.item == id)).map HistoryRecord.floorMillis) := by
  obtain ⟨sorted, hperm, hfalling, hanswer⟩ := h.exists_history hfits id
  refine (listsNewest_congr hanswer).2 (listsNewest_mapM hperm (hfalling.imp_of_mem ?_)
    fun r hr => HistoryRecord.reread_eq_floorMillis (hread r hr).1 (hread r hr).2)
  intro r x hr hx hle
  exact (Time.floorMillis_le_iff (hread x (hperm.mem_iff.1 hx)).1
    (hread r (hperm.mem_iff.1 hr)).1).2 hle

/-- A number that is not finite and a time inside a leap second are not read back. -/
theorem of_listsNewest_history (h : db.Logs rs es) (hfits : rs.length < 2 ^ 63) {id : Uuid}
    (hlists : ListsNewest (newestRecords db id) HistoryRecord.time
      ((rs.filter (·.item == id)).map HistoryRecord.floorMillis)) :
    ∀ r ∈ rs.filter (·.item == id),
      r.time.IsPlain ∧ ∀ x ∈ r.readings.floats, x.isFinite = true := by
  obtain ⟨sorted, hperm, -, hanswer⟩ := h.exists_history hfits id
  intro r hr
  obtain ⟨hplain, x, hread⟩ := ((listsNewest_congr hanswer).1 hlists).exists_reread hperm
    (Nat.lt_of_le_of_lt (List.length_filter_le _ _) hfits)
    (fun _ _ => HistoryRecord.isPlain_of_reread) r hr
  exact ⟨Time.isPlain_floorMillis_iff.1 hplain, HistoryRecord.isFinite_of_reread hread⟩

theorem listsNewest_recentEvents_iff (h : db.Logs rs es) (hfits : es.length < 2 ^ 63) :
    ListsNewest (newestEvents db) Event.time (es.map Event.floorMillis) ↔
      ∀ e ∈ es, e.time.IsPlain := by
  obtain ⟨sorted, hperm, hfalling, hanswer⟩ := h.exists_recentEvents hfits
  constructor
  · intro hlists e he
    exact Time.isPlain_floorMillis_iff.1 (((listsNewest_congr hanswer).1 hlists).exists_reread
      hperm hfits (fun _ _ => Event.isPlain_of_reread) e he).1
  · intro hplain
    refine (listsNewest_congr hanswer).2 (listsNewest_mapM hperm (hfalling.imp_of_mem ?_)
      fun e he => Event.reread_eq_floorMillis (hplain e he))
    intro d e hd he hle
    exact (Time.floorMillis_le_iff (hplain e (hperm.mem_iff.1 he))
      (hplain d (hperm.mem_iff.1 hd))).2 hle

end Logs

end Database

namespace Sample

/-- A record of the end of the first minute of 1970. -/
def late : HistoryRecord :=
  ⟨item.id, (Time.ofParts? 60 0).getD .epoch, .normal, .empty⟩

/-- A record of the start of 1970. -/
def early : HistoryRecord := ⟨item.id, .epoch, .unknown, .empty⟩

end Sample

namespace Entry

theorem logs_appendTo_empty (entries : List Entry) :
    MemoryStore.Logs (appendTo .empty entries) (entries.filterMap record?)
      (entries.filterMap event?) :=
  appendTo_of_append MemoryStore.Logs (fun entry h => h.append entry) MemoryStore.logs_empty entries

theorem logs_appendTo_fresh (entries : List Entry) :
    Database.Logs (appendTo .fresh entries) (entries.filterMap record?)
      (entries.filterMap event?) :=
  appendTo_of_append Database.Logs (fun entry h => h.append entry) Database.logs_fresh entries

/-- When the listings of the two stores give the newest of what they were given. -/
structure ListedWhen (entries : List Entry) : Prop where
  /-- In memory, exactly if the records of the item came in the order of their times. -/
  memoryHistory : ∀ id,
    ListsNewest (newestRecords (appendTo MemoryStore.empty entries) id) HistoryRecord.time
        (recordsOf id entries) ↔
      (recordsOf id entries).Pairwise fun r x => r.time ≤ x.time
  memoryEvents :
    ListsNewest (newestEvents (appendTo MemoryStore.empty entries)) Event.time
        (entries.filterMap event?) ↔
      (entries.filterMap event?).Pairwise fun d e => d.time ≤ e.time
  /-- In a database, whatever the order. Their times are rounded down to milliseconds. -/
  databaseHistory : ∀ id,
    (∀ r ∈ recordsOf id entries, r.time.IsPlain ∧ r.readings.ReadBack) →
      ListsNewest (newestRecords (appendTo Database.fresh entries) id) HistoryRecord.time
        ((recordsOf id entries).map HistoryRecord.floorMillis)
  /-- But not if a number is not finite or a time is inside a leap second. -/
  databaseUnread : ∀ id,
    ListsNewest (newestRecords (appendTo Database.fresh entries) id) HistoryRecord.time
        ((recordsOf id entries).map HistoryRecord.floorMillis) →
      ∀ r ∈ recordsOf id entries, r.time.IsPlain ∧ ∀ x ∈ r.readings.floats, x.isFinite = true
  databaseEvents :
    ListsNewest (newestEvents (appendTo Database.fresh entries)) Event.time
        ((entries.filterMap event?).map Event.floorMillis) ↔
      ∀ e ∈ entries.filterMap event?, e.time.IsPlain

/-- Entries in any order are listed by the database from the newest to the oldest, as far as they
are read back, and by the store in memory only if they came in the order of their times. -/
theorem listed_when {entries : List Entry} (hfits : entries.length < 2 ^ 63) :
    ListedWhen entries := by
  have hrecords : (entries.filterMap record?).length < 2 ^ 63 :=
    Nat.lt_of_le_of_lt (List.length_filterMap_le _ _) hfits
  have hevents : (entries.filterMap event?).length < 2 ^ 63 :=
    Nat.lt_of_le_of_lt (List.length_filterMap_le _ _) hfits
  have hmemory := logs_appendTo_empty entries
  have hdatabase := logs_appendTo_fresh entries
  exact {
    memoryHistory := hmemory.listsNewest_history_iff hrecords
    memoryEvents := hmemory.listsNewest_recentEvents_iff hevents
    databaseHistory := fun _ => hdatabase.listsNewest_history hrecords
    databaseUnread := fun _ => hdatabase.of_listsNewest_history hrecords
    databaseEvents := hdatabase.listsNewest_recentEvents_iff hevents }

theorem listed_when_sample : ListedWhen [.record Sample.late, .record Sample.early] :=
  listed_when (by decide)

/-- The older record came last, and so the store in memory lists it as the newest. The database
does not. -/
theorem older_listed_sample :
    let entries := [.record Sample.late, .record Sample.early]
    let id := Sample.late.item
    let memory : MemoryStore := appendTo .empty entries
    let db : Database := appendTo .fresh entries
    Sample.early.time < Sample.late.time ∧ newestRecords memory id 1 = .ok [Sample.early] ∧
      ¬ListsNewest (newestRecords memory id) HistoryRecord.time (recordsOf id entries) ∧
      ListsNewest (newestRecords db id) HistoryRecord.time
        ((recordsOf id entries).map HistoryRecord.floorMillis) := by
  intro entries id memory db
  have hmemory := logs_appendTo_empty entries
  have hdatabase := logs_appendTo_fresh entries
  have hread : ∀ r ∈ recordsOf id entries, r.time.IsPlain ∧ r.readings.ReadBack := by
    decide +kernel
  refine ⟨by decide, rfl, fun h => ?_, hdatabase.listsNewest_history (by decide) hread⟩
  have horder := (hmemory.listsNewest_history_iff (by decide) id).1 h
  revert horder
  decide +kernel

end Entry

end Vigil
