import Vigil.Proofs.Store.Keyed

/-!
# The items of a world

Of a world only its items matter here: `World.item?` looks one up, behind all faults.
An operation that writes no items leaves them as they are (`SameItems`), and one that
writes the progress of an item changes this item and no other (`Writes`). Both may
fail, and then nothing is written.
-/

namespace Vigil

namespace Access

variable {σ α β : Type} {a : Access σ α} {f : α → Access σ β} {s t : σ}

theorem bind_of_ok {x : α} (h : a s = (.ok x, t)) : (a >>= f) s = f x t := by
  simp only [bind, ExceptT.bind, ExceptT.mk, StateT.bind, h, ExceptT.bindCont]

theorem bind_of_error {e : StoreError} (h : a s = (.error e, t)) :
    (a >>= f) s = (.error e, t) := by
  simp only [bind, ExceptT.bind, ExceptT.mk, StateT.bind, h, ExceptT.bindCont]
  rfl

end Access

/-- An effect on the store does to it what its operation does. -/
theorem Effect.snd_ofAccess {σ : Type} (found : String) (a : Access σ Unit) (s : σ) :
    (Effect.ofAccess found a s).2 = (a s).2 := by
  unfold Effect.ofAccess
  split
  · next h => rw [h]
  · next h => rw [h]

theorem FaultyStore.behind_of {σ α : Type} {a : Access σ α} {s : FaultyStore σ} {t : σ}
    {r : Except StoreError α} (h : a s.inner = (r, t)) :
    FaultyStore.behind a s = (r, { s with inner := t }) := by
  simp only [FaultyStore.behind, Access.zoom, h]

namespace MemoryStore

variable {α : Type} {f : MemoryStore → Except StoreError (α × MemoryStore)} {s : MemoryStore}

theorem whenOn_of_off (h : s.switchedOff = true) :
    whenOn f s = (.error (.unavailable "memory store switched off"), s) := by
  simp only [whenOn, Access.change, h, if_true]

theorem whenOn_of_ok {a : α} {t : MemoryStore} (h : s.switchedOff = false)
    (hf : f s = .ok (a, t)) : whenOn f s = (.ok a, t) := by
  simp only [whenOn, Access.change, h, hf, Bool.false_eq_true, if_false]

theorem whenOn_of_error {e : StoreError} (h : s.switchedOff = false) (hf : f s = .error e) :
    whenOn f s = (.error e, s) := by
  simp only [whenOn, Access.change, h, hf, Bool.false_eq_true, if_false]

/-- An operation that keeps the items if it succeeds keeps them in any case. -/
theorem itemMap_whenOn (hf : ∀ a t, f s = .ok (a, t) → t.itemMap = s.itemMap) :
    (whenOn f s).2.itemMap = s.itemMap := by
  cases hoff : s.switchedOff with
  | true => rw [whenOn_of_off hoff]
  | false =>
      cases h : f s with
      | ok r => rw [whenOn_of_ok hoff h, hf r.1 r.2 h]
      | error e => rw [whenOn_of_error hoff h]

theorem get?_of_off (h : s.switchedOff = true) (id : Uuid) :
    (Store.get? id : Access MemoryStore _) s =
      (.error (.unavailable "memory store switched off"), s) :=
  whenOn_of_off h

theorem get?_of_on (h : s.switchedOff = false) (id : Uuid) :
    (Store.get? id : Access MemoryStore _) s = (.ok s.itemMap[id]?, s) :=
  whenOn_of_ok h rfl

theorem getElem?_put (s : MemoryStore) (item : Item) (id : Uuid) :
    (s.put item).itemMap[id]? = if item.id = id then some item else s.itemMap[id]? := by
  rw [put, Std.ExtTreeMap.getElem?_insert]
  by_cases h : item.id = id
  · rw [if_pos (Std.LawfulEqOrd.compare_eq_iff_eq.2 h), if_pos h]
  · rw [if_neg (fun heq => h (Std.LawfulEqOrd.compare_eq_iff_eq.1 heq)), if_neg h]

theorem getElem?_put_of_eq {item : Item} {id : Uuid} (h : item.id = id) (s : MemoryStore) :
    (s.put item).itemMap[id]? = some item := by
  rw [getElem?_put, if_pos h]

theorem getElem?_put_of_ne {item : Item} {id : Uuid} (h : item.id ≠ id) (s : MemoryStore) :
    (s.put item).itemMap[id]? = s.itemMap[id]? := by
  rw [getElem?_put, if_neg h]

end MemoryStore

namespace World

/-- The item with an id. -/
def item? (w : World MemoryStore) (id : Uuid) : Option Item := w.store.inner.itemMap[id]?

theorem id_of_item? {w : World MemoryStore} {id : Uuid} {i : Item} (h : w.item? id = some i) :
    i.id = id :=
  w.store.inner.keyed h

/-- The second world has the items of the first one, and what is done after its next
listing is the same. -/
structure SameItems (w v : World MemoryStore) : Prop where
  item? : ∀ id, v.item? id = w.item? id
  afterItems : v.store.afterItems = w.store.afterItems

namespace SameItems

variable {u v w : World MemoryStore}

theorem of_store (h : v.store = w.store) : SameItems w v := by
  refine ⟨?_, by rw [h]⟩
  intro id
  simp only [World.item?, h]

theorem refl (w : World MemoryStore) : SameItems w w := of_store rfl

theorem trans (huv : SameItems u v) (hvw : SameItems v w) : SameItems u w :=
  ⟨fun id => (hvw.item? id).trans (huv.item? id), hvw.afterItems.trans huv.afterItems⟩

end SameItems

/-- The second world is the first one with another progress of an item that it has. -/
structure Writes (id : Uuid) (f : Progress → Progress) (w v : World MemoryStore) : Prop where
  item? : ∃ i, w.item? id = some i ∧ v.item? id = some { i with progress := f i.progress }
  others : ∀ other, other ≠ id → v.item? other = w.item? other
  afterItems : v.store.afterItems = w.store.afterItems

/-! ### Calls of the store -/

/-- The world with another store behind its faults. -/
def withInner (w : World MemoryStore) (inner : MemoryStore) : World MemoryStore :=
  { w with store := { w.store with inner } }

section

variable {α : Type} {c : StoreCall} {a : Access MemoryStore α} {w : World MemoryStore}

/-- A call of the store behind, unless it is to fail. -/
def call (c : StoreCall) (a : Access MemoryStore α) : Access (World MemoryStore) α :=
  onStore (FaultyStore.guarded c (FaultyStore.behind a))

theorem call_of_fails (h : w.store.fails c = true) :
    call c a w = (.error (.unavailable ("injected: " ++ c.operation)), w) := by
  simp only [call, onStore, Access.zoom, FaultyStore.guarded, h, if_true]

theorem call_of_not_fails (h : w.store.fails c = false) :
    call c a w = ((a w.store.inner).1, w.withInner (a w.store.inner).2) := by
  simp only [call, onStore, Access.zoom, FaultyStore.guarded, h, Bool.false_eq_true, if_false]
  rfl

/-- A call that keeps the items if it succeeds keeps them in any case. -/
theorem sameItems_call {f : MemoryStore → Except StoreError (α × MemoryStore)}
    (hf : ∀ s a t, f s = .ok (a, t) → t.itemMap = s.itemMap) (w : World MemoryStore) :
    SameItems w (call c (MemoryStore.whenOn f) w).2 := by
  cases h : w.store.fails c with
  | true =>
      rw [call_of_fails h]
      exact SameItems.refl w
  | false =>
      rw [call_of_not_fails h]
      refine ⟨?_, rfl⟩
      intro id
      simp only [item?, withInner, MemoryStore.itemMap_whenOn (hf w.store.inner)]

end

/-- What comes of a call that writes the progress of an item: it is written, or there
is an error and nothing is written. -/
theorem modify_cases (c : StoreCall) (id : Uuid) (f : Progress → Progress)
    (w : World MemoryStore) :
    (∃ v, call c (MemoryStore.modifyItem id f) w = (.ok (), v) ∧ Writes id f w v) ∨
      ∃ e, call c (MemoryStore.modifyItem id f) w = (.error e, w) := by
  cases hfails : w.store.fails c with
  | true => exact Or.inr ⟨_, call_of_fails hfails⟩
  | false =>
      rw [call_of_not_fails hfails]
      unfold MemoryStore.modifyItem
      cases hoff : w.store.inner.switchedOff with
      | true =>
          rw [MemoryStore.whenOn_of_off hoff]
          exact Or.inr ⟨_, rfl⟩
      | false =>
          cases hitem : w.store.inner.itemMap[id]? with
          | none =>
              rw [MemoryStore.whenOn_of_error hoff (by rw [hitem])]
              exact Or.inr ⟨_, rfl⟩
          | some i =>
              have hid : i.id = id := w.store.inner.keyed hitem
              rw [MemoryStore.whenOn_of_ok hoff (by rw [hitem])]
              refine Or.inl ⟨_, rfl, ⟨i, hitem, ?_⟩, ?_, rfl⟩
              · refine MemoryStore.getElem?_put_of_eq ?_ _
                exact hid
              · intro other hother
                refine MemoryStore.getElem?_put_of_ne ?_ _
                exact fun h => hother (h.symm.trans hid)

/-- The store behind is switched on, and no call is to fail. -/
structure Healthy (w : World MemoryStore) : Prop where
  fails : ∀ c, w.store.fails c = false
  switchedOff : w.store.inner.switchedOff = false

/-- The world with a store that does not fail. -/
def heal (w : World MemoryStore) : World MemoryStore :=
  { w with
    store := { w.store with
      fails := fun _ => false
      inner := { w.store.inner with switchedOff := false } } }

theorem healthy_heal (w : World MemoryStore) : w.heal.Healthy := ⟨fun _ => rfl, rfl⟩

theorem sameItems_heal (w : World MemoryStore) : SameItems w w.heal := ⟨fun _ => rfl, rfl⟩

/-- A write goes through when nothing fails and the item is there. -/
theorem modify_of_healthy {w : World MemoryStore} (hw : w.Healthy) {id : Uuid} {i : Item}
    (hitem : w.item? id = some i) (c : StoreCall) (f : Progress → Progress) :
    ∃ v, call c (MemoryStore.modifyItem id f) w = (.ok (), v) := by
  rw [call_of_not_fails (hw.fails c)]
  unfold MemoryStore.modifyItem
  have hlook : w.store.inner.itemMap[id]? = some i := hitem
  rw [MemoryStore.whenOn_of_ok hw.switchedOff (by rw [hlook])]
  exact ⟨_, rfl⟩

/-! ### The operations -/

/-- Looking an item up changes nothing, and gives the item if it does not fail. -/
theorem get?_cases (id : Uuid) (w : World MemoryStore) :
    (Store.get? id : Access (World MemoryStore) _) w = (.ok (w.item? id), w) ∨
      ∃ e, (Store.get? id : Access (World MemoryStore) _) w = (.error e, w) := by
  change call (.get id) (Store.get? id) w = _ ∨ ∃ e, call (.get id) (Store.get? id) w = _
  cases hfails : w.store.fails (.get id) with
  | true => exact Or.inr ⟨_, call_of_fails hfails⟩
  | false =>
      rw [call_of_not_fails hfails]
      cases hoff : w.store.inner.switchedOff with
      | true =>
          rw [MemoryStore.get?_of_off hoff]
          exact Or.inr ⟨_, rfl⟩
      | false =>
          rw [MemoryStore.get?_of_on hoff]
          exact Or.inl rfl

/-- A listing that nothing comes after is a call like any other. -/
theorem items_eq {w : World MemoryStore} (h : w.store.afterItems = []) :
    (Store.items : Access (World MemoryStore) _) w = call .items Store.items w := by
  obtain ⟨⟨inner, fails, afterItems⟩, files, exporter, snapshots, marked⟩ := w
  obtain rfl : afterItems = [] := h
  cases hfails : fails .items with
  | true =>
      rw [call_of_fails hfails]
      simp only [Store.items, onStore, Access.zoom, FaultyStore.guarded, hfails, if_true]
  | false =>
      rw [call_of_not_fails hfails]
      simp only [Store.items, onStore, Access.zoom, FaultyStore.guarded, hfails,
        Bool.false_eq_true, if_false]
      cases hoff : inner.switchedOff with
      | true =>
          rw [Access.bind_of_error (FaultyStore.behind_of (MemoryStore.whenOn_of_off hoff)),
            MemoryStore.whenOn_of_off hoff]
          rfl
      | false =>
          rw [Access.bind_of_ok (FaultyStore.behind_of (MemoryStore.whenOn_of_ok hoff rfl)),
            MemoryStore.whenOn_of_ok hoff rfl]
          rfl

/-- A listing changes no items. -/
theorem sameItems_items {w : World MemoryStore} (h : w.store.afterItems = []) :
    SameItems w ((Store.items : Access (World MemoryStore) _) w).2 := by
  rw [items_eq h]
  refine sameItems_call ?_ w
  rintro s a t ⟨⟩
  rfl

theorem update_cases (i : Item) (w : World MemoryStore) :
    (∃ v, (Store.update i : Access (World MemoryStore) _) w = (.ok (), v) ∧
      Writes i.id (fun _ => i.progress) w v) ∨
    ∃ e, (Store.update i : Access (World MemoryStore) _) w = (.error e, w) :=
  modify_cases (.update i.id) i.id (fun _ => i.progress) w

theorem reschedule_cases (id : Uuid) (due : Time) (last : Option Time) (w : World MemoryStore) :
    (∃ v, (Store.reschedule id due last : Access (World MemoryStore) _) w = (.ok (), v) ∧
      Writes id (fun p => { p with nextDue := due, lastRun := last }) w v) ∨
    ∃ e, (Store.reschedule id due last : Access (World MemoryStore) _) w = (.error e, w) :=
  modify_cases (.reschedule id) id _ w

theorem update_of_healthy {w : World MemoryStore} (hw : w.Healthy) {i old : Item}
    (hitem : w.item? i.id = some old) :
    ∃ v, (Store.update i : Access (World MemoryStore) _) w = (.ok (), v) :=
  modify_of_healthy hw hitem (.update i.id) _

theorem reschedule_of_healthy {w : World MemoryStore} (hw : w.Healthy) {id : Uuid} {old : Item}
    (hitem : w.item? id = some old) (due : Time) (last : Option Time) :
    ∃ v, (Store.reschedule id due last : Access (World MemoryStore) _) w = (.ok (), v) :=
  modify_of_healthy hw hitem (.reschedule id) _

theorem sameItems_nodeName? (node : Uuid) (w : World MemoryStore) :
    SameItems w ((Directory.nodeName? node : Access (World MemoryStore) _) w).2 := by
  refine sameItems_call (c := .nodeName node) ?_ w
  rintro s a t ⟨⟩
  rfl

theorem sameItems_appendEvent (e : Event) (w : World MemoryStore) :
    SameItems w ((Store.appendEvent e : Access (World MemoryStore) _) w).2 := by
  refine sameItems_call (c := .appendEvent e.subject) ?_ w
  rintro s a t ⟨⟩
  rfl

theorem sameItems_appendHistory (r : HistoryRecord) (w : World MemoryStore) :
    SameItems w ((Store.appendHistory r : Access (World MemoryStore) _) w).2 := by
  refine sameItems_call (c := .appendHistory r.item) ?_ w
  rintro s a t ⟨⟩
  rfl

theorem sameItems_markChanged (node : Uuid) (time : Time) (w : World MemoryStore) :
    SameItems w ((Directory.markChanged node time : Access (World MemoryStore) _) w).2 := by
  have hmarked : SameItems w
      (if w.store.fails (.markChanged node) then w else { w with marked := w.marked ++ [node] }) :=
    .of_store (by split <;> rfl)
  refine hmarked.trans (sameItems_call (c := .markChanged node) ?_ _)
  intro s a t h
  split at h <;> (cases h; rfl)

theorem store_accept {σ : Type} (x : Snapshot) (w : World σ) :
    (Exporter.accept x w).2.store = w.store := by
  simp only [Exporter.accept]
  split
  · rfl
  · rfl
  · rfl
  · split <;> rfl

theorem sameItems_accept (x : Snapshot) (w : World MemoryStore) :
    SameItems w (Exporter.accept x w).2 :=
  .of_store (store_accept x w)

/-- The effects of a dispatch write no items, but for the last one. -/
theorem sameItems_attempt {e : Effect} (he : ∀ i, e ≠ .persist i) (now : Time) (found : String)
    (w : World MemoryStore) : SameItems w (e.attempt now found w).2 := by
  cases e with
  | findNode node =>
      have h := sameItems_nodeName? node w
      simp only [Effect.attempt]
      split <;> simp_all
  | logEvent category level subject name message =>
      simp only [Effect.attempt, Effect.snd_ofAccess]
      exact sameItems_appendEvent _ w
  | markNode node =>
      simp only [Effect.attempt, Effect.snd_ofAccess]
      exact sameItems_markChanged node now w
  | keepHistory r =>
      simp only [Effect.attempt, Effect.snd_ofAccess]
      exact sameItems_appendHistory r w
  | handOver x =>
      have h := sameItems_accept x w
      simp only [Effect.attempt]
      split <;> simp_all
  | persist i => exact absurd rfl (he i)

/-- The last effect of a dispatch writes what it found, or fails and writes nothing. -/
theorem persist_cases (i : Item) (now : Time) (found : String) (w : World MemoryStore) :
    (∃ v, (Effect.persist i).attempt now found w = (.ok found, v) ∧
      Writes i.id (fun _ => i.progress) w v) ∨
    ∃ e, (Effect.persist i).attempt now found w = (.error e, w) := by
  simp only [Effect.attempt, Effect.ofAccess]
  rcases update_cases i w with ⟨v, hok, hwrites⟩ | ⟨e, herror⟩
  · rw [hok]
    exact Or.inl ⟨v, rfl, hwrites⟩
  · rw [herror]
    exact Or.inr ⟨_, rfl⟩

theorem persist_of_healthy {w : World MemoryStore} (hw : w.Healthy) {i old : Item}
    (hitem : w.item? i.id = some old) (now : Time) (found : String) :
    ((Effect.persist i).attempt now found w).1 = .ok found := by
  obtain ⟨v, hok⟩ := update_of_healthy hw hitem
  simp only [Effect.attempt, Effect.ofAccess]
  rw [hok]

end World

/-! ### A small world -/

namespace Sample

/-- An item that nothing is known about. It was due at the start of 1970. -/
def item : Item := ⟨⟨1⟩, .standard ⟨2⟩ "web" "http" "localhost", .fresh .epoch⟩

/-- A world with this item only. -/
def world : World MemoryStore := .start (MemoryStore.empty.put item) .empty .absent

theorem item?_world : world.item? item.id = some item :=
  MemoryStore.getElem?_put_of_eq rfl _

end Sample

end Vigil
