import Mathlib.Logic.Function.Basic
import Vigil.Proofs.Store.Agreement
import Vigil.Proofs.Store.Steady

/-!
# What a store contains

Of a store two things matter here: the settings of the items in it, and its history. The
first are changed by saves and deletes only, however many older copies of an item are
written back, and the second is changed by a delete, a record that is appended and a purge.
This is said once for each store (`HoldingStore`); a store in front of another one, and a
world around it, contain what the store behind contains.
-/

namespace Vigil

/-- The settings of the items in a store, and its history. -/
@[ext]
structure Contents where
  settings? : Uuid → Option Settings
  /-- The oldest record first. -/
  records : List HistoryRecord

namespace Contents

def empty : Contents := ⟨fun _ => none, []⟩

def put (c : Contents) (item : Item) : Contents :=
  { c with settings? := Function.update c.settings? item.id (some item.settings) }

/-- Removes an item with its history. -/
def drop (c : Contents) (id : Uuid) : Contents :=
  ⟨Function.update c.settings? id none, c.records.filter (·.item != id)⟩

def append (c : Contents) (r : HistoryRecord) : Contents := { c with records := c.records ++ [r] }

/-- What an operation makes of contents, and what its answer says about them. Only a purge
may have changed something when it fails. -/
inductive Becomes (c : Contents) : StoreOp → Except StoreError StoreAnswer → Contents → Prop
  | saved {item : Item} : Becomes c (.save item) (.ok .done) (c.put item)
  | updated {item : Item} (h : (c.settings? item.id).isSome) :
      Becomes c (.update item) (.ok .done) c
  | rescheduled {id : Uuid} {nextDue : Time} {lastRun : Option Time} :
      Becomes c (.reschedule id nextDue lastRun) (.ok .done) c
  | deleted {id : Uuid} : Becomes c (.delete id) (.ok .done) (c.drop id)
  | kept {id : Uuid} {e : StoreError} (h : e = .notFound id → c.settings? id = none) :
      Becomes c (.delete id) (.error e) c
  | found {id : Uuid} {found : Option Item} (h : found.map Item.settings = c.settings? id)
      (hid : ∀ i ∈ found, i.id = id) : Becomes c (.get id) (.ok (.found found)) c
  | listed {items : List Item} (h : ∀ i ∈ items, c.settings? i.id = some i.settings) :
      Becomes c .list (.ok (.listed items)) c
  | appended {r : HistoryRecord} : Becomes c (.appendHistory r) (.ok .done) (c.append r)
  | recalled {id : Uuid} {limit : UInt64} {rs : List HistoryRecord} :
      Becomes c (.history id limit) (.ok (.records rs)) c
  | logged {e : Event} : Becomes c (.appendEvent e) (.ok .done) c
  | recent {limit : UInt64} {es : List Event} :
      Becomes c (.recentEvents limit) (.ok (.events es)) c
  | purged {records events : Time} {r : Except StoreError StoreAnswer} {rs : List HistoryRecord}
      (h : rs.Sublist c.records) :
      Becomes c (.purgeBefore records events) r { c with records := rs }
  | failed {op : StoreOp} {e : StoreError} (hdelete : ∀ id, op ≠ .delete id)
      (hpurge : ∀ records events, op ≠ .purgeBefore records events) : Becomes c op (.error e) c

theorem put_of_settings {c : Contents} {item : Item}
    (h : c.settings? item.id = some item.settings) : c.put item = c := by
  rw [put, ← h, Function.update_eq_self]

end Contents

/-- A store together with what it contains. -/
class HoldingStore (σ : Type) [Store σ] [Directory σ] where
  Holds : σ → Contents → Prop
  ask {s : σ} {c : Contents} (op : StoreOp) :
    Holds s c → ∃ d, c.Becomes op (op.ask s).1 d ∧ Holds (op.ask s).2 d
  nodeName? {s : σ} {c : Contents} (node : Uuid) :
    Holds s c → Holds ((Directory.nodeName? node : Access σ _) s).2 c
  markChanged {s : σ} {c : Contents} (node : Uuid) (now : Time) :
    Holds s c → Holds ((Directory.markChanged node now : Access σ _) s).2 c

/-- Such a store beside an exporter that leaves it alone. -/
class HoldingWorld (σ : Type) [Store σ] [Directory σ] [Exporter σ] extends HoldingStore σ where
  accept {s : σ} {c : Contents} (x : Snapshot) : Holds s c → Holds (Exporter.accept x s).2 c

/-! ### The latest save -/

namespace StoreOp

/-- What an answered operation settles about an item: a save its settings, and a delete that
it is not there. -/
def ruling? (id : Uuid) : StoreOp → Except StoreError StoreAnswer → Option (Option Settings)
  | save item, .ok _ => if item.id = id then some (some item.settings) else none
  | delete other, .ok _ => if other = id then some none else none
  | delete other, .error e => if other = id ∧ e = .notFound id then some none else none
  | _, _ => none

variable {σ : Type} [Store σ]

/-- The state after operations, one after another. -/
def final (s : σ) : List StoreOp → σ
  | [] => s
  | op :: ops => final (op.ask s).2 ops

/-- The settings of the latest save of an item, unless it was deleted later; `known` is what
was settled before. -/
def latest (id : Uuid) (known : Option Settings) (s : σ) : List StoreOp → Option Settings
  | [] => known
  | op :: ops => latest id ((op.ruling? id (op.ask s).1).getD known) (op.ask s).2 ops

end StoreOp

theorem Contents.Becomes.settings?_eq {c d : Contents} {op : StoreOp}
    {r : Except StoreError StoreAnswer} (h : c.Becomes op r d) (id : Uuid) :
    d.settings? id = (op.ruling? id r).getD (c.settings? id) := by
  cases h with
  | @saved item =>
      by_cases hid : item.id = id
      · subst hid
        simp [put, StoreOp.ruling?]
      · simp [put, StoreOp.ruling?, hid, Function.update_of_ne (Ne.symm hid)]
  | @deleted other =>
      by_cases hid : other = id
      · subst hid
        simp [drop, StoreOp.ruling?]
      · simp [drop, StoreOp.ruling?, hid, Function.update_of_ne (Ne.symm hid)]
  | @kept other e hmissing =>
      by_cases hruled : other = id ∧ e = .notFound id
      · obtain ⟨rfl, rfl⟩ := hruled
        simp [StoreOp.ruling?, hmissing rfl]
      · simp [StoreOp.ruling?, hruled]
  | failed hdelete hpurge =>
      cases op with
      | delete other => exact absurd rfl (hdelete other)
      | _ => rfl
  | _ => rfl

/-- What a store contains in the end has the settings of the latest saves. -/
theorem HoldingStore.exists_holds_final {σ : Type} [Store σ] [Directory σ] [HoldingStore σ]
    {s : σ} {c : Contents} (h : Holds s c) (ops : List StoreOp) :
    ∃ d, Holds (StoreOp.final s ops) d ∧
      ∀ id, d.settings? id = StoreOp.latest id (c.settings? id) s ops := by
  induction ops generalizing s c with
  | nil => exact ⟨c, h, fun _ => rfl⟩
  | cons op ops ih =>
      obtain ⟨d, hbecomes, hholds⟩ := HoldingStore.ask op h
      obtain ⟨e, hfinal, hlatest⟩ := ih hholds
      refine ⟨e, hfinal, fun id => ?_⟩
      rw [hlatest, hbecomes.settings?_eq]
      rfl

/-- Of an operation that leaves the state as it is when it fails only its success is to be
looked at. -/
theorem Contents.exists_becomes {σ α : Type} (holds : σ → Contents → Prop) {s : σ} {c : Contents}
    {op : StoreOp} {a : Access σ α} {f : α → StoreAnswer} (h : holds s c)
    (ha : Access.Atomic a) (herror : ∀ e, (a s).1 = .error e → c.Becomes op (.error e) c)
    (hok : ∀ x t, a s = (.ok x, t) → ∃ d, c.Becomes op (.ok (f x)) d ∧ holds t d) :
    ∃ d, c.Becomes op ((f <$> a) s).1 d ∧ holds ((f <$> a) s).2 d := by
  rw [Access.map_apply]
  cases hs : a s with
  | mk r t =>
      cases r with
      | ok x => exact hok x t hs
      | error e =>
          have heq : t = s := ha s t e hs
          exact ⟨c, herror e (by rw [hs]), heq ▸ h⟩

/-! ### The store in memory -/

namespace MemoryStore

def contents (s : MemoryStore) : Contents :=
  ⟨fun id => s.itemMap[id]?.map Item.settings, s.records⟩

variable {s : MemoryStore}

theorem contents_empty : MemoryStore.empty.contents = .empty := by
  refine Contents.ext (funext fun id => ?_) rfl
  simp [contents, MemoryStore.empty, Contents.empty]

theorem contents_put (s : MemoryStore) (item : Item) :
    (s.put item).contents = s.contents.put item := by
  refine Contents.ext (funext fun id => ?_) rfl
  by_cases hid : item.id = id
  · subst hid
    simp [contents, Contents.put, getElem?_put]
  · simp [contents, Contents.put, getElem?_put, hid, Function.update_of_ne (Ne.symm hid)]

theorem contents_drop (s : MemoryStore) (id : Uuid) :
    (s.drop id).contents = s.contents.drop id := by
  refine Contents.ext (funext fun other => ?_) rfl
  by_cases hid : id = other
  · subst hid
    simp [contents, Contents.drop, getElem?_drop]
  · simp [contents, Contents.drop, getElem?_drop, hid, Function.update_of_ne (Ne.symm hid)]

theorem atomic_whenOn {α : Type} (f : MemoryStore → Except StoreError (α × MemoryStore)) :
    Access.Atomic (whenOn f) :=
  Access.atomic_change _

/-- Writing the progress of an item that is there leaves the contents. -/
theorem contents_modifyItem {id : Uuid} {f : Progress → Progress} {t : MemoryStore}
    (h : modifyItem id f s = (.ok (), t)) :
    (s.contents.settings? id).isSome ∧ t.contents = s.contents := by
  have hok := of_whenOn_ok h
  split at hok
  · cases hok
  · next item hitem =>
    obtain ⟨-, rfl⟩ := Prod.mk.inj (Except.ok.inj hok)
    obtain rfl := s.keyed hitem
    have hsettings : s.contents.settings? item.id = some item.settings := by
      simp [contents, hitem]
    rw [contents_put]
    exact ⟨by simp [hsettings], Contents.put_of_settings hsettings⟩

theorem exists_becomes {α : Type} {op : StoreOp}
    {f : MemoryStore → Except StoreError (α × MemoryStore)} {g : α → StoreAnswer}
    (herror : ∀ e, (whenOn f s).1 = .error e → s.contents.Becomes op (.error e) s.contents)
    (hok : ∀ x t, f s = .ok (x, t) → s.contents.Becomes op (.ok (g x)) t.contents) :
    ∃ d, s.contents.Becomes op ((g <$> whenOn f) s).1 d ∧ ((g <$> whenOn f) s).2.contents = d :=
  Contents.exists_becomes (fun t d => t.contents = d) rfl (atomic_whenOn f) herror
    fun x t h => ⟨_, hok x t (of_whenOn_ok h), rfl⟩

theorem exists_becomes_modifyItem {op : StoreOp} {id : Uuid} {f : Progress → Progress}
    (herror : ∀ e, s.contents.Becomes op (.error e) s.contents)
    (hok : (s.contents.settings? id).isSome → s.contents.Becomes op (.ok .done) s.contents) :
    ∃ d, s.contents.Becomes op (((fun _ => .done) <$> modifyItem id f) s).1 d ∧
      (((fun _ => StoreAnswer.done) <$> modifyItem id f) s).2.contents = d := by
  refine Contents.exists_becomes (fun t d => t.contents = d) rfl (atomic_whenOn _)
    (fun e _ => herror e) fun x t h => ?_
  obtain ⟨hsome, hcontents⟩ := contents_modifyItem h
  exact ⟨_, hok hsome, hcontents⟩

theorem settings?_of_missing {id : Uuid}
    (h : ((Store.delete id : Access MemoryStore _) s).1 = .error (.notFound id)) :
    s.contents.settings? id = none := by
  change (whenOn _ s).1 = _ at h
  cases hoff : s.switchedOff with
  | true =>
      rw [whenOn_of_off hoff] at h
      cases h
  | false =>
      cases hitem : s.itemMap[id]? with
      | none => simp [contents, hitem]
      | some item =>
          have hcontains : s.itemMap.contains id = true := by
            rw [← Std.ExtTreeMap.isSome_getElem?_eq_contains, hitem]
            rfl
          rw [whenOn_of_ok hoff (if_pos hcontains)] at h
          cases h

theorem contents_of_whenOn {α : Type} {f : MemoryStore → Except StoreError (α × MemoryStore)}
    (hf : ∀ x t, f s = .ok (x, t) → t.contents = s.contents) :
    (whenOn f s).2.contents = s.contents := by
  cases h : whenOn f s with
  | mk r t =>
      cases r with
      | ok x => exact hf x t (of_whenOn_ok h)
      | error e => rw [atomic_whenOn f s t e h]

instance : HoldingStore MemoryStore where
  Holds s c := s.contents = c
  ask {s c} op h := by
    subst h
    cases op with
    | save item =>
        refine exists_becomes (fun e _ => .failed (by simp) (by simp)) ?_
        rintro x t ⟨⟩
        rw [contents_put]
        exact .saved
    | update item => exact exists_becomes_modifyItem (fun e => .failed (by simp) (by simp)) .updated
    | reschedule id nextDue lastRun =>
        exact exists_becomes_modifyItem (fun e => .failed (by simp) (by simp)) fun _ => .rescheduled
    | delete id =>
        refine exists_becomes (fun e he => .kept ?_) fun x t h => ?_
        · rintro rfl
          exact settings?_of_missing he
        · split at h
          · cases h
            rw [contents_drop]
            exact .deleted
          · cases h
    | get id =>
        refine exists_becomes (fun e _ => .failed (by simp) (by simp)) ?_
        rintro x t ⟨⟩
        exact .found rfl fun i hi => s.keyed hi
    | list =>
        refine exists_becomes (fun e _ => .failed (by simp) (by simp)) ?_
        rintro x t ⟨⟩
        refine .listed fun i hi => ?_
        simp [contents, mem_itemList.1 hi]
    | appendHistory r =>
        refine exists_becomes (fun e _ => .failed (by simp) (by simp)) ?_
        rintro x t ⟨⟩
        exact .appended
    | history id limit =>
        refine exists_becomes (fun e _ => .failed (by simp) (by simp)) ?_
        rintro x t ⟨⟩
        exact .recalled
    | appendEvent e =>
        refine exists_becomes (fun e _ => .failed (by simp) (by simp)) ?_
        rintro x t ⟨⟩
        exact .logged
    | recentEvents limit =>
        refine exists_becomes (fun e _ => .failed (by simp) (by simp)) ?_
        rintro x t ⟨⟩
        exact .recent
    | purgeBefore records events =>
        refine exists_becomes (fun e _ => .purged (.refl _)) ?_
        rintro x t ⟨⟩
        exact .purged List.filter_sublist
  nodeName? {s c} node h := by
    subst h
    refine contents_of_whenOn ?_
    rintro x t ⟨⟩
    rfl
  markChanged {s c} node now h := by
    subst h
    refine contents_of_whenOn fun x t h => ?_
    split at h <;> (cases h; rfl)

theorem holds_empty : HoldingStore.Holds MemoryStore.empty .empty := contents_empty

end MemoryStore

/-! ### Stores in front of others -/

theorem Contents.Becomes.unavailable (c : Contents) (op : StoreOp) (reason : String) :
    c.Becomes op (.error (.unavailable reason)) c := by
  cases op with
  | delete id => exact .kept fun h => by cases h
  | purgeBefore records events => exact .purged (.refl _)
  | _ => exact .failed (by simp) (by simp)

namespace FaultyStore

variable {σ α : Type} [Store σ] [Directory σ] [HoldingStore σ] {s : FaultyStore σ} {c : Contents}

/-- What the store behind contains, and nothing is to be done after the next listing. -/
structure Holds (s : FaultyStore σ) (c : Contents) : Prop where
  inner : HoldingStore.Holds s.inner c
  afterItems : s.afterItems = []

theorem Holds.exists_becomes (h : Holds s c) {op : StoreOp} {a : Access σ α} {f : α → StoreAnswer}
    (ha : ∃ d, c.Becomes op ((f <$> a) s.inner).1 d ∧ HoldingStore.Holds ((f <$> a) s.inner).2 d)
    (call : StoreCall) :
    ∃ d, c.Becomes op ((f <$> guarded call (behind a)) s).1 d ∧
      Holds ((f <$> guarded call (behind a)) s).2 d := by
  rw [Access.map_apply] at ha ⊢
  unfold guarded
  split
  · exact ⟨c, .unavailable c op _, h⟩
  · obtain ⟨d, hbecomes, hinner⟩ := ha
    exact ⟨d, hbecomes, hinner, h.afterItems⟩

theorem Holds.guarded (h : Holds s c) {a : Access σ α} (ha : HoldingStore.Holds (a s.inner).2 c)
    (call : StoreCall) : Holds (guarded call (behind a) s).2 c := by
  unfold FaultyStore.guarded
  split
  · exact h
  · exact ⟨ha, h.afterItems⟩

omit [Directory σ] [HoldingStore σ] in
/-- A listing that nothing comes after only lists. -/
theorem items_of_afterItems (h : s.afterItems = []) :
    (Store.items : Access (FaultyStore σ) _) s =
      FaultyStore.guarded .items (behind Store.items) s := by
  have hbehind : (do
      let items ← behind Store.items
      runAfterItems
      return items : Access (FaultyStore σ) (List Item)) s = behind Store.items s := by
    cases hitems : (Store.items : Access σ _) s.inner with
    | mk r t =>
        have hcall := behind_of hitems
        cases r with
        | error e => rw [Access.bind_of_error hcall, hcall]
        | ok items =>
            have hafter : (runAfterItems : Access (FaultyStore σ) Unit) { s with inner := t } =
                (.ok (), { s with inner := t }) := by
              simp only [runAfterItems, h]
              rfl
            rw [Access.bind_of_ok hcall, Access.bind_of_ok hafter, hcall]
            rfl
  change FaultyStore.guarded .items _ s = _
  rw [FaultyStore.guarded, FaultyStore.guarded, hbehind]

instance : HoldingStore (FaultyStore σ) where
  Holds := Holds
  ask {s c} op h := by
    have hask := HoldingStore.ask op h.inner
    cases op with
    | list =>
        have hlist : StoreOp.list.ask s =
            (StoreAnswer.listed <$> FaultyStore.guarded .items (behind Store.items)) s := by
          rw [StoreOp.ask, Access.map_apply, Access.map_apply, items_of_afterItems h.afterItems]
        rw [hlist]
        exact h.exists_becomes hask .items
    | _ => exact h.exists_becomes hask _
  nodeName? node h := h.guarded (HoldingStore.nodeName? node h.inner) _
  markChanged node now h := h.guarded (HoldingStore.markChanged node now h.inner) _

end FaultyStore

namespace World

variable {σ : Type} [Store σ] [Directory σ] [HoldingStore σ]

instance : HoldingWorld (World σ) where
  Holds w c := w.store.Holds c
  ask {w c} op h := by
    have hstore : op.ask w = ((op.ask w.store).1, { w with store := (op.ask w.store).2 }) := by
      cases op <;> (simp only [StoreOp.ask, Access.map_apply]; rfl)
    rw [hstore]
    exact HoldingStore.ask (s := w.store) op h
  nodeName? {w c} node h := HoldingStore.nodeName? (s := w.store) node h
  markChanged {w c} node now h := by
    have hmarked (v : World σ) (hv : v.store = w.store) :
        ((onStore (Directory.markChanged node now) : Access (World σ) Unit) v).2.store.Holds c := by
      have hstore : v.store.Holds c := hv ▸ h
      exact HoldingStore.markChanged (s := v.store) node now hstore
    change ((onStore _ : Access (World σ) Unit) _).2.store.Holds c
    split
    · exact hmarked w rfl
    · exact hmarked _ rfl
  accept {w c} x h := by
    rw [store_accept]
    exact h

/-- A world contains what its store contains. -/
theorem holds_start {store : σ} {c : Contents} (h : HoldingStore.Holds store c) (files : FileTree)
    (exporter : ExporterKind) : HoldingStore.Holds (World.start store files exporter) c :=
  ⟨h, rfl⟩

end World

end Vigil
