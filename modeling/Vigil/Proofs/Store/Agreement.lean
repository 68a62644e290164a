import Mathlib.Data.List.Forall2
import Vigil.Proofs.Store.Mirror

/-!
# The two stores agree

A sequence of operations that starts on an empty store in memory and on a database with
the newest schema gets the same answers from both, errors included; only a listing may
give the items in another order. The database keeps times as whole milliseconds and
readings as text, and sorts records by their times; so the times must be whole
milliseconds, the numbers finite and read back as they were written, and the records of
an item and the events appended in the order of their times. Limits, identifiers, texts
and settings are whatever they are.
-/

namespace Vigil

/-- An operation on a store. Limits are words of 64 bits. -/
inductive StoreOp where
  | save (item : Item)
  | update (item : Item)
  | reschedule (id : Uuid) (nextDue : Time) (lastRun : Option Time)
  | delete (id : Uuid)
  | get (id : Uuid)
  | list
  | appendHistory (r : HistoryRecord)
  | history (id : Uuid) (limit : UInt64)
  | appendEvent (e : Event)
  | recentEvents (limit : UInt64)
  | purgeBefore (records events : Time)

/-- What a store answers. -/
inductive StoreAnswer where
  | done
  | found (item : Option Item)
  | listed (items : List Item)
  | records (rs : List HistoryRecord)
  | events (es : List Event)
  | dropped (count : Nat)

/-- Two answers that say the same: they are equal, or they list the same items. -/
inductive StoreAnswer.Agree :
    Except StoreError StoreAnswer → Except StoreError StoreAnswer → Prop
  | same (r : Except StoreError StoreAnswer) : Agree r r
  | listed {items others : List Item} (h : items.Perm others) :
    Agree (.ok (.listed items)) (.ok (.listed others))

namespace StoreOp

section

variable {σ : Type} [Store σ]

/-- An operation with its answer. -/
def ask : StoreOp → Access σ StoreAnswer
  | save item => (fun _ => .done) <$> Store.save item
  | update item => (fun _ => .done) <$> Store.update item
  | reschedule id nextDue lastRun => (fun _ => .done) <$> Store.reschedule id nextDue lastRun
  | delete id => (fun _ => .done) <$> Store.delete id
  | get id => .found <$> Store.get? id
  | list => .listed <$> Store.items
  | appendHistory r => (fun _ => .done) <$> Store.appendHistory r
  | history id limit => .records <$> Store.history id limit.toNat
  | appendEvent e => (fun _ => .done) <$> Store.appendEvent e
  | recentEvents limit => .events <$> Store.recentEvents limit.toNat
  | purgeBefore records events => .dropped <$> Store.purgeBefore records events

/-- The answers to operations, one after another. -/
def answers (s : σ) : List StoreOp → List (Except StoreError StoreAnswer)
  | [] => []
  | op :: ops => (op.ask s).1 :: answers (op.ask s).2 ops

/-- The states that operations find, one after another. -/
def states (s : σ) : List StoreOp → List σ
  | [] => []
  | op :: ops => s :: states (op.ask s).2 ops

end

/-- The times that an operation is given. -/
def times : StoreOp → List Time
  | save item => item.progress.nextDue :: item.progress.lastRun.toList
  | update item => item.progress.nextDue :: item.progress.lastRun.toList
  | reschedule _ nextDue lastRun => nextDue :: lastRun.toList
  | appendHistory r => [r.time]
  | appendEvent e => [e.time]
  | purgeBefore records events => [records, events]
  | _ => []

/-- The numbers in the readings that an operation is given. -/
def floats : StoreOp → List Float
  | save item => item.progress.readings.floats
  | update item => item.progress.readings.floats
  | appendHistory r => r.readings.floats
  | _ => []

/-- The record that an operation appends. -/
def record? : StoreOp → Option HistoryRecord
  | appendHistory r => some r
  | _ => none

/-- The event that an operation appends. -/
def event? : StoreOp → Option Event
  | appendEvent e => some e
  | _ => none

end StoreOp

/-- Records and events are held in vectors, and no vector has 2 ^ 63 elements. -/
structure MemoryStore.Fits (s : MemoryStore) : Prop where
  records : s.records.length < 2 ^ 63
  eventLog : s.eventLog.length < 2 ^ 63

namespace Sample

/-- Operations of every kind on one item, with a limit that is no limit. -/
def storeOps : List StoreOp :=
  let progress : Progress := { item.progress with readings := .setNumber .empty "loss" 12.5 }
  let record (state : HealthState) : HistoryRecord := ⟨item.id, .epoch, state, progress.readings⟩
  let event : Event := ⟨.epoch, Event.polling, "normal", item.id, "web", "web is normal"⟩
  [.update item, .save item, .update { item with progress }, .reschedule item.id .epoch none,
    .appendHistory (record .unknown), .appendHistory (record .normal), .appendEvent event,
    .history item.id 1, .history item.id (UInt64.ofNat (2 ^ 64 - 1)), .recentEvents 5,
    .purgeBefore .epoch .epoch, .list, .get item.id, .delete item.id, .history item.id 1]

end Sample

/-! ### One operation -/

theorem Access.map_apply {σ α β : Type} (f : α → β) (a : Access σ α) (s : σ) :
    (f <$> a) s = ((a s).1.map f, (a s).2) := by
  cases h : a s with
  | mk r t =>
      cases r <;> simp only [Functor.map, ExceptT.map, ExceptT.mk, bind, StateT.bind, h] <;> rfl

theorem Access.of_map_error {σ α β : Type} {f : α → β} {a : Access σ α} {s t : σ}
    {e : StoreError} (h : (f <$> a) s = (.error e, t)) : a s = (.error e, t) := by
  rw [map_apply] at h
  cases ha : a s with
  | mk r after =>
      rw [ha] at h
      obtain ⟨hanswer, rfl⟩ := Prod.mk.inj h
      cases r with
      | ok x => cases hanswer
      | error e' => rw [Except.error.inj hanswer]

/-- In the second state there is nothing but what was in the first one, in its order, and
what was appended. -/
structure MemoryStore.GrowsBy (s t : MemoryStore) (rs : List HistoryRecord) (es : List Event) :
    Prop where
  records : t.records.Sublist (s.records ++ rs)
  eventLog : t.eventLog.Sublist (s.eventLog ++ es)

namespace MemoryStore

variable {s t : MemoryStore} {rs : List HistoryRecord} {es : List Event}

theorem GrowsBy.of_eq (hrecords : t.records = s.records) (heventLog : t.eventLog = s.eventLog) :
    GrowsBy s t rs es :=
  ⟨hrecords ▸ List.sublist_append_left _ _, heventLog ▸ List.sublist_append_left _ _⟩

theorem growsBy_whenOn {α : Type} {f : MemoryStore → Except StoreError (α × MemoryStore)}
    (hf : ∀ a t, f s = .ok (a, t) → GrowsBy s t rs es) : GrowsBy s (whenOn f s).2 rs es := by
  cases hoff : s.switchedOff with
  | true =>
      rw [whenOn_of_off hoff]
      exact .of_eq rfl rfl
  | false =>
      cases h : f s with
      | ok p =>
          rw [whenOn_of_ok hoff h]
          exact hf p.1 p.2 h
      | error err =>
          rw [whenOn_of_error hoff h]
          exact .of_eq rfl rfl

theorem growsBy_modifyItem (id : Uuid) (g : Progress → Progress) :
    GrowsBy s (modifyItem id g s).2 rs es := by
  refine growsBy_whenOn fun a t h => ?_
  split at h
  · cases h
  · cases h
    exact .of_eq rfl rfl

theorem growsBy_ask (s : MemoryStore) (op : StoreOp) :
    GrowsBy s (op.ask s).2 ([op].filterMap StoreOp.record?) ([op].filterMap StoreOp.event?) := by
  cases op <;> simp only [StoreOp.ask, Access.map_apply]
  case save item =>
    refine growsBy_whenOn ?_
    rintro a t ⟨⟩
    exact .of_eq rfl rfl
  case update item => exact growsBy_modifyItem _ _
  case reschedule id nextDue lastRun => exact growsBy_modifyItem _ _
  case delete id =>
    refine growsBy_whenOn fun a t h => ?_
    split at h
    · cases h
      exact ⟨List.filter_sublist.trans (List.sublist_append_left _ _),
        List.sublist_append_left _ _⟩
    · cases h
  case purgeBefore records events =>
    refine growsBy_whenOn ?_
    rintro a t ⟨⟩
    exact ⟨List.filter_sublist.trans (List.sublist_append_left _ _),
      List.filter_sublist.trans (List.sublist_append_left _ _)⟩
  case appendHistory r =>
    refine growsBy_whenOn ?_
    rintro a t ⟨⟩
    exact ⟨.refl _, List.sublist_append_left _ _⟩
  case appendEvent e =>
    refine growsBy_whenOn ?_
    rintro a t ⟨⟩
    exact ⟨List.sublist_append_left _ _, .refl _⟩
  all_goals
    refine growsBy_whenOn ?_
    rintro a t ⟨⟩
    exact .of_eq rfl rfl

end MemoryStore

namespace Alike

variable {α : Type} {p : Except StoreError α × MemoryStore} {q : Except StoreError α × Database}

theorem agree (h : Alike p q) (f : α → StoreAnswer) :
    StoreAnswer.Agree (p.1.map f) (q.1.map f) ∧ Mirrors p.2 q.2 := by
  rw [h.answer]
  exact ⟨.same _, h.mirrors⟩

end Alike

/-- One operation on a store in memory and its mirror: the answers agree, and the
database mirrors the store afterwards. -/
theorem Mirrors.ask {s : MemoryStore} {db : Database} (h : Mirrors s db) {op : StoreOp}
    (htimes : ∀ t ∈ op.times, t.IsWhole)
    (hfloats : ∀ x ∈ op.floats, x.isFinite = true ∧ Decimal.ReadsBack x) (hfits : s.Fits)
    (hrecords : s.records.Pairwise fun r x => r.item = x.item → r.time ≤ x.time)
    (hevents : s.eventLog.Pairwise fun d e => d.time ≤ e.time) :
    StoreAnswer.Agree (op.ask s).1 (op.ask db).1 ∧ Mirrors (op.ask s).2 (op.ask db).2 := by
  have hprogress {p : Progress} (hp : op.times = p.nextDue :: p.lastRun.toList)
      (hreadings : op.floats = p.readings.floats) : p.Storable := by
    rw [hp] at htimes
    rw [hreadings] at hfloats
    refine ⟨htimes _ List.mem_cons_self, fun t ht => htimes t ?_, hfloats⟩
    exact List.mem_cons_of_mem _ (Option.mem_toList.2 ht)
  cases op <;> simp only [StoreOp.ask, Access.map_apply]
  case save item => exact (h.save (hprogress rfl rfl)).agree _
  case update item => exact (h.update (hprogress rfl rfl)).agree _
  case reschedule id nextDue lastRun =>
    refine (h.reschedule id (htimes _ List.mem_cons_self) fun t ht => htimes t ?_).agree _
    exact List.mem_cons_of_mem _ (Option.mem_toList.2 ht)
  case delete id => exact (h.delete id).agree _
  case get id => exact (h.get? id).agree _
  case list =>
    obtain ⟨listed, items, hmemory, hdb, hperm⟩ := h.items_perm
    rw [hmemory, hdb]
    exact ⟨.listed hperm, h⟩
  case appendHistory r =>
    exact (h.appendHistory ⟨htimes _ List.mem_cons_self, hfloats⟩).agree _
  case history id limit => exact (h.history_alike id limit hfits.records hrecords).agree _
  case appendEvent e => exact (h.appendEvent (htimes _ List.mem_cons_self)).agree _
  case recentEvents limit => exact (h.recentEvents_alike limit hfits.eventLog hevents).agree _
  case purgeBefore records events =>
    exact (h.purgeBefore (htimes _ (by simp [StoreOp.times]))
      (htimes _ (by simp [StoreOp.times]))).agree _

/-! ### Sequences of operations -/

namespace StoreOp

variable {ops : List StoreOp}

/-- What follows from the first state of a store and its mirror for all answers. -/
theorem answers_of_mirrors {s : MemoryStore} {db : Database} (h : Mirrors s db)
    (htimes : ∀ op ∈ ops, ∀ t ∈ op.times, t.IsWhole)
    (hfloats : ∀ op ∈ ops, ∀ x ∈ op.floats, x.isFinite = true ∧ Decimal.ReadsBack x)
    (hrecords : (s.records ++ ops.filterMap record?).Pairwise fun r x =>
      r.item = x.item → r.time ≤ x.time)
    (hevents : (s.eventLog ++ ops.filterMap event?).Pairwise fun d e => d.time ≤ e.time)
    (hfits : ∀ t ∈ states s ops, t.Fits) :
    List.Forall₂ StoreAnswer.Agree (answers s ops) (answers db ops) := by
  induction ops generalizing s db with
  | nil => exact .nil
  | cons op ops ih =>
      have hgrows := MemoryStore.growsBy_ask s op
      obtain ⟨hagree, hmirrors⟩ := h.ask (htimes op List.mem_cons_self)
        (hfloats op List.mem_cons_self) (hfits s List.mem_cons_self)
        (List.pairwise_append.1 hrecords).1 (List.pairwise_append.1 hevents).1
      refine .cons hagree (ih hmirrors (fun o ho => htimes o (List.mem_cons_of_mem op ho))
        (fun o ho => hfloats o (List.mem_cons_of_mem op ho)) ?_ ?_
        fun t ht => hfits t (List.mem_cons_of_mem s ht))
      · refine hrecords.sublist ?_
        rw [← List.singleton_append, List.filterMap_append, ← List.append_assoc]
        exact hgrows.records.append_right _
      · refine hevents.sublist ?_
        rw [← List.singleton_append, List.filterMap_append, ← List.append_assoc]
        exact hgrows.eventLog.append_right _

/-- An operation appends one record or event at most, and so a sequence of fewer than
2 ^ 63 operations finds no state that does not fit. -/
theorem fits_of_length {s : MemoryStore} (hrecords : s.records.length + ops.length ≤ 2 ^ 63)
    (hevents : s.eventLog.length + ops.length ≤ 2 ^ 63) : ∀ t ∈ states s ops, t.Fits := by
  induction ops generalizing s with
  | nil => simp [states]
  | cons op ops ih =>
      have hgrows := MemoryStore.growsBy_ask s op
      have hmoreRecords := hgrows.records.length_le
      have hmoreEvents := hgrows.eventLog.length_le
      have honeRecord := List.length_filterMap_le record? [op]
      have honeEvent := List.length_filterMap_le event? [op]
      simp only [List.length_append, List.length_cons, List.length_nil] at *
      intro t ht
      rcases List.mem_cons.1 ht with rfl | ht
      · exact ⟨by omega, by omega⟩
      · exact ih (by omega) (by omega) t ht

/-- The two stores answer the same to every sequence of operations with whole times and with
finite numbers that are read back, whose records of one item and whose events come in the order
of their times. It makes no difference in which order the store in memory visits its items. -/
theorem answers_agree (visiting : Visiting) (htimes : ∀ op ∈ ops, ∀ t ∈ op.times, t.IsWhole)
    (hfinite : ∀ op ∈ ops, ∀ x ∈ op.floats, x.isFinite = true)
    (hcodec : ∀ op ∈ ops, ∀ x ∈ op.floats, Decimal.ReadsBack x)
    (hrecords : (ops.filterMap record?).Pairwise fun r x => r.item = x.item → r.time ≤ x.time)
    (hevents : (ops.filterMap event?).Pairwise fun d e => d.time ≤ e.time)
    (hfits : ∀ s ∈ states (MemoryStore.empty visiting) ops, s.Fits) :
    List.Forall₂ StoreAnswer.Agree (answers (MemoryStore.empty visiting) ops)
      (answers Database.fresh ops) :=
  answers_of_mirrors (mirrors_empty visiting) htimes
    (fun op hop x hx => ⟨hfinite op hop x hx, hcodec op hop x hx⟩) hrecords hevents hfits

theorem answers_agree_sample :
    List.Forall₂ StoreAnswer.Agree (answers MemoryStore.empty Sample.storeOps)
      (answers Database.fresh Sample.storeOps) :=
  answers_agree .byId (by decide +kernel) (by decide +kernel) (by decide +kernel)
    (by decide +kernel) (by decide +kernel) (fits_of_length (by decide) (by decide))

end StoreOp

end Vigil
