import Vigil.Proofs.Store.World
import Vigil.Store.Database

/-!
# What is found stays as it is

An effect of a dispatch other than the last one writes nothing that is looked up in
the store: items are found as before, and nodes have the names that they had. The last
effect writes an item, and if it fails it leaves no trace either. This is said once for
each store (`SteadyStore`), and a store that stands in front of another one, or a world
around it, inherits it from the store behind.
-/

namespace Vigil

/-- Every look-up of an item or of the name of a node gives the same in both states. -/
structure SameLookups {σ : Type} [Store σ] [Directory σ] (s t : σ) : Prop where
  get? : ∀ id, ((Store.get? id : Access σ _) t).1 = ((Store.get? id : Access σ _) s).1
  nodeName? : ∀ node,
    ((Directory.nodeName? node : Access σ _) t).1 = ((Directory.nodeName? node : Access σ _) s).1

namespace SameLookups

variable {σ : Type} [Store σ] [Directory σ] {s t u : σ}

theorem refl (s : σ) : SameLookups s s := ⟨fun _ => rfl, fun _ => rfl⟩

theorem trans (hst : SameLookups s t) (htu : SameLookups t u) : SameLookups s u :=
  ⟨fun id => (htu.get? id).trans (hst.get? id),
    fun node => (htu.nodeName? node).trans (hst.nodeName? node)⟩

/-- A change that keeps what is found if it succeeds keeps it in any case. -/
theorem of_change {α : Type} {f : σ → Except StoreError (α × σ)} {s : σ}
    (hf : ∀ a t, f s = .ok (a, t) → SameLookups s t) : SameLookups s (Access.change f s).2 := by
  cases h : f s with
  | ok r =>
      rw [Access.change_of_ok h]
      exact hf r.1 r.2 h
  | error e =>
      rw [Access.change_of_error h]
      exact refl s

end SameLookups

/-- A store in which only a write of an item that succeeds changes what is found. -/
class SteadyStore (σ : Type) [Store σ] [Directory σ] : Prop where
  nodeName? (node : Uuid) (s : σ) :
    SameLookups s ((Directory.nodeName? node : Access σ _) s).2
  appendEvent (e : Event) (s : σ) : SameLookups s ((Store.appendEvent e : Access σ _) s).2
  markChanged (node : Uuid) (now : Time) (s : σ) :
    SameLookups s ((Directory.markChanged node now : Access σ _) s).2
  appendHistory (r : HistoryRecord) (s : σ) :
    SameLookups s ((Store.appendHistory r : Access σ _) s).2
  update_of_error {i : Item} {s t : σ} {e : StoreError} :
    (Store.update i : Access σ _) s = (.error e, t) → SameLookups s t

/-- A steady store beside an exporter that leaves it alone. -/
class SteadyWorld (σ : Type) [Store σ] [Directory σ] [Exporter σ] : Prop
    extends SteadyStore σ where
  accept (x : Snapshot) (s : σ) : SameLookups s (Exporter.accept x s).2

/-- A change that fails leaves the state as it is. -/
theorem Access.eq_of_change_error {σ α : Type} {f : σ → Except StoreError (α × σ)} {s t : σ}
    {e : StoreError} (h : change f s = (.error e, t)) : t = s := by
  cases hf : f s with
  | ok r =>
      rw [change_of_ok hf] at h
      cases (Prod.mk.inj h).1
  | error e =>
      rw [change_of_error hf] at h
      exact (Prod.mk.inj h).2.symm

namespace Access

variable {σ α : Type}

/-- An operation that leaves the state as it is if it fails. -/
def Atomic (a : Access σ α) : Prop := ∀ s t e, a s = (.error e, t) → t = s

theorem atomic_look (f : σ → Except StoreError α) : Atomic (look f) :=
  fun _ _ _ h => (Prod.mk.inj h).2.symm

theorem atomic_change (f : σ → Except StoreError (α × σ)) : Atomic (change f) :=
  fun _ _ _ h => eq_of_change_error h

end Access

/-! ### The store in memory -/

namespace MemoryStore

variable {s t : MemoryStore}

theorem sameLookups (hitems : t.itemMap = s.itemMap)
    (hnames : ∀ id : Uuid, (t.nodes[id]?).map Node.name = (s.nodes[id]?).map Node.name)
    (hswitch : t.switchedOff = s.switchedOff) : SameLookups s t := by
  constructor
  · intro id
    change (whenOn _ t).1 = (whenOn _ s).1
    cases h : s.switchedOff with
    | true => rw [whenOn_of_off h, whenOn_of_off (hswitch.trans h)]
    | false => rw [whenOn_of_ok h rfl, whenOn_of_ok (hswitch.trans h) rfl, hitems]
  · intro id
    change (whenOn _ t).1 = (whenOn _ s).1
    cases h : s.switchedOff with
    | true => rw [whenOn_of_off h, whenOn_of_off (hswitch.trans h)]
    | false => rw [whenOn_of_ok h rfl, whenOn_of_ok (hswitch.trans h) rfl, hnames]

theorem sameLookups_whenOn {α : Type} {f : MemoryStore → Except StoreError (α × MemoryStore)}
    (hf : ∀ a t, f s = .ok (a, t) → SameLookups s t) : SameLookups s (whenOn f s).2 := by
  refine .of_change ?_
  intro a t h
  split at h
  · cases h
  · exact hf a t h

/-- A mark leaves the names of the nodes. -/
theorem name_insert {id : Uuid} {node : Node} (h : s.nodes[id]? = some node)
    (changedAt : Option Time) (other : Uuid) :
    ((s.nodes.insert id { node with changedAt })[other]?).map Node.name =
      (s.nodes[other]?).map Node.name := by
  rw [Std.ExtTreeMap.getElem?_insert]
  split
  · next heq =>
    rw [← Std.LawfulEqOrd.eq_of_compare heq, h]
    rfl
  · rfl

instance : SteadyStore MemoryStore where
  nodeName? node s := by
    refine sameLookups_whenOn ?_
    rintro a t ⟨⟩
    exact .refl s
  appendEvent e s := by
    refine sameLookups_whenOn ?_
    rintro a t ⟨⟩
    exact sameLookups rfl (fun _ => rfl) rfl
  markChanged node now s := by
    refine sameLookups_whenOn ?_
    intro a t h
    split at h
    · cases h
      exact .refl s
    · next n hn =>
      cases h
      exact sameLookups rfl (name_insert hn _) rfl
  appendHistory r s := by
    refine sameLookups_whenOn ?_
    rintro a t ⟨⟩
    exact sameLookups rfl (fun _ => rfl) rfl
  update_of_error {i s t e} h := by
    have hmodify : modifyItem i.id (fun _ => i.progress) s = (.error e, t) := h
    unfold modifyItem whenOn at hmodify
    rw [Access.eq_of_change_error hmodify]
    exact .refl s

end MemoryStore

/-! ### The store in a database -/

namespace Database

/-- What is found depends on the tables of items and nodes only. -/
theorem sameLookups {s t : Database} (hitems : t.table? .items = s.table? .items)
    (hnames : ∀ node, ((Directory.nodeName? node : Access Database _) t).1 =
      ((Directory.nodeName? node : Access Database _) s).1) : SameLookups s t := by
  refine ⟨?_, hnames⟩
  intro id
  change (t.existing .items).bind _ = (s.existing .items).bind _
  rw [existing, existing, hitems]

theorem nodeName?_eq (s : Database) (node : Uuid) :
    ((Directory.nodeName? node : Access Database _) s).1 =
      (s.existing .nodes).bind
        (findRow 0 (.ofUuid node) fun r => (r[1]?.getD Cell.null).text?) := rfl

theorem nodeName?_congr {s t : Database} (h : t.table? .nodes = s.table? .nodes) (node : Uuid) :
    ((Directory.nodeName? node : Access Database _) t).1 =
      ((Directory.nodeName? node : Access Database _) s).1 := by
  rw [nodeName?_eq, nodeName?_eq, existing, existing, h]

/-- What a statement on a table does if it succeeds. -/
theorem exists_of_step {α : Type} {name : TableName} {f : Table → Except StoreError (α × Table)}
    {s t : Database} {a : α}
    (h : (do let (a, t) ← f (← s.existing name); return (a, s.setTable name (some t)) :
      Except StoreError (α × Database)) = .ok (a, t)) :
    ∃ old new, s.table? name = some old ∧ f old = .ok (a, new) ∧
      t = s.setTable name (some new) := by
  cases hold : s.table? name with
  | none => simp [existing, hold, bind, Except.bind] at h
  | some old =>
      cases hnew : f old with
      | error e => simp [existing, hold, hnew, bind, Except.bind] at h
      | ok r =>
          simp only [existing, hold, hnew, bind, Except.bind, pure, Except.pure, Except.ok.injEq,
            Prod.mk.injEq] at h
          obtain ⟨rfl, rfl⟩ := h
          exact ⟨old, r.2, rfl, hnew, rfl⟩

theorem sameLookups_execute {α : Type} {name : TableName}
    {f : Table → Except StoreError (α × Table)} {s : Database} (hitems : name ≠ .items)
    (hnodes : name ≠ .nodes) : SameLookups s (execute name f s).2 := by
  refine .of_change ?_
  intro a t h
  obtain ⟨old, new, -, -, rfl⟩ := exists_of_step h
  exact sameLookups (table?_setTable_of_ne hitems)
    (nodeName?_congr (table?_setTable_of_ne hnodes))

/-- A node is found under its id with its name, whatever is written in the last column. -/
theorem findRow_modify (t : Table) (node id : Uuid) (c : Cell) :
    findRow 0 (.ofUuid node) (fun r => (r[1]?.getD Cell.null).text?)
        (t.modify 0 (.ofUuid id) fun r => r.set 2 c) =
      findRow 0 (.ofUuid node) (fun r => (r[1]?.getD Cell.null).text?) t := by
  have hrow (r : Row) (i : Nat) (hi : i ≠ 2) :
      (if Table.holds 0 (.ofUuid id) r then r.set 2 c else r)[i]? = r[i]? := by
    split
    · exact List.getElem?_set_ne (Ne.symm hi)
    · rfl
  simp only [findRow, Table.select, Table.modify]
  induction t.rows with
  | nil => rfl
  | cons r rows ih =>
      have hholds : Table.holds 0 (.ofUuid node)
          (if Table.holds 0 (.ofUuid id) r then r.set 2 c else r) =
            Table.holds 0 (.ofUuid node) r := by
        rw [Table.holds, hrow r 0 (by decide), Table.holds]
      rw [List.map_cons, List.filter_cons, List.filter_cons, hholds]
      cases Table.holds 0 (.ofUuid node) r with
      | false => exact ih
      | true =>
          simp only [if_true, List.head?_cons, Option.mapM_some, hrow r 1 (by decide)]

instance : SteadyStore Database where
  nodeName? node s := .refl s
  appendEvent e s := sameLookups_execute (by decide) (by decide)
  markChanged node now s := by
    refine .of_change ?_
    intro a t h
    obtain ⟨old, new, hold, hnew, rfl⟩ := exists_of_step h
    refine sameLookups (table?_setTable_of_ne (by decide)) ?_
    intro other
    rw [nodeName?_eq, nodeName?_eq, existing, existing, table?_setTable, hold]
    cases hnew
    exact findRow_modify old other node _
  appendHistory r s := sameLookups_execute (by decide) (by decide)
  update_of_error {i s t e} h := by
    have hmodify : modifyItem i.id (Item.progressRow i.progress) s = (.error e, t) := h
    unfold modifyItem execute at hmodify
    rw [Access.eq_of_change_error hmodify]
    exact .refl s

end Database

/-! ### Stores in front of others -/

namespace FaultyStore

variable {σ α : Type} [Store σ] [Directory σ] {c : StoreCall} {s : FaultyStore σ}

/-- What is found in the store behind is found in front of it. -/
theorem sameLookups_inner {t : σ} (h : SameLookups s.inner t) :
    SameLookups s { s with inner := t } := by
  constructor
  · intro id
    change (guarded (.get id) _ _).1 = (guarded (.get id) _ _).1
    unfold guarded
    split
    · rfl
    · exact h.get? id
  · intro node
    change (guarded (.nodeName node) _ _).1 = (guarded (.nodeName node) _ _).1
    unfold guarded
    split
    · rfl
    · exact h.nodeName? node

theorem sameLookups_guarded {a : Access σ α} (h : SameLookups s.inner (a s.inner).2) :
    SameLookups s (guarded c (behind a) s).2 := by
  unfold guarded
  split
  · exact .refl s
  · exact sameLookups_inner h

instance [SteadyStore σ] : SteadyStore (FaultyStore σ) where
  nodeName? node s := sameLookups_guarded (SteadyStore.nodeName? node s.inner)
  appendEvent e s := sameLookups_guarded (SteadyStore.appendEvent e s.inner)
  markChanged node now s := sameLookups_guarded (SteadyStore.markChanged node now s.inner)
  appendHistory r s := sameLookups_guarded (SteadyStore.appendHistory r s.inner)
  update_of_error {i s t e} h := by
    change guarded _ _ s = _ at h
    unfold guarded at h
    split at h
    · rw [← (Prod.mk.inj h).2]
      exact .refl s
    · rw [← (Prod.mk.inj h).2]
      exact sameLookups_inner (SteadyStore.update_of_error (Prod.ext (Prod.mk.inj h).1 rfl))

end FaultyStore

namespace World

variable {σ : Type} [Store σ] [Directory σ]

/-- What is found in the store of a world is all that is found in the world. -/
theorem sameLookups_store {w v : World σ} (h : SameLookups w.store v.store) : SameLookups w v :=
  ⟨h.get?, h.nodeName?⟩

instance [SteadyStore σ] : SteadyWorld (World σ) where
  nodeName? node w := sameLookups_store (SteadyStore.nodeName? node w.store)
  appendEvent e w := sameLookups_store (SteadyStore.appendEvent e w.store)
  markChanged node now w := by
    change SameLookups w ((onStore _ : Access (World σ) Unit) _).2
    split
    · exact sameLookups_store (SteadyStore.markChanged node now w.store)
    · exact sameLookups_store (SteadyStore.markChanged node now w.store)
  appendHistory r w := sameLookups_store (SteadyStore.appendHistory r w.store)
  update_of_error {i w v e} h := by
    have hstore : (Store.update i : Access (FaultyStore σ) _) w.store = (.error e, v.store) := by
      rw [← (Prod.mk.inj h).2]
      exact Prod.ext (Prod.mk.inj h).1 rfl
    exact sameLookups_store (SteadyStore.update_of_error hstore)
  accept x w := by
    refine sameLookups_store ?_
    rw [store_accept]
    exact .refl w.store

end World

end Vigil
