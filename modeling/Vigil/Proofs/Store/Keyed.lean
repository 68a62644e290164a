import Vigil.Simulation.World
import Vigil.Store.Memory

/-!
# Stores with keys

An item that is looked up by an id has this id. A store that stands in front of
another one, or a world around it, inherits this from the store behind.
-/

namespace Vigil

/-- A store that gives an item out under no id but its own. -/
class KeyedStore (σ : Type) [Store σ] : Prop where
  id_of_get? {id : Uuid} {s t : σ} {item : Item} :
    (Store.get? id : Access σ _) s = (.ok (some item), t) → item.id = id

/-! ### Operations through a view -/

namespace Access

variable {σ τ α : Type} {get : τ → σ} {set : σ → τ → τ}

/-- What an operation on a part answers, the operation on the part has answered. -/
theorem exists_of_zoom {a : Access σ α} {t u : τ} {r : Except StoreError α}
    (h : a.zoom get set t = (r, u)) : ∃ s, a (get t) = (r, s) := by
  have hanswer : (a (get t)).1 = r := congrArg Prod.fst h
  exact ⟨(a (get t)).2, Prod.ext hanswer rfl⟩

end Access

namespace FaultyStore

variable {σ α : Type}

/-- A call that was answered was made. -/
theorem of_guarded_ok {c : StoreCall} {a : Access (FaultyStore σ) α} {s t : FaultyStore σ}
    {x : α} (h : guarded c a s = (.ok x, t)) : a s = (.ok x, t) := by
  unfold guarded at h
  split at h
  · cases h
  · exact h

instance [Store σ] [KeyedStore σ] : KeyedStore (FaultyStore σ) where
  id_of_get? := by
    intro id s t item h
    obtain ⟨inner, hinner⟩ := Access.exists_of_zoom (of_guarded_ok h)
    exact KeyedStore.id_of_get? hinner

end FaultyStore

namespace MemoryStore

variable {α : Type}

/-- An operation that was answered found the store switched on. -/
theorem of_whenOn_ok {f : MemoryStore → Except StoreError (α × MemoryStore)}
    {s t : MemoryStore} {a : α} (h : whenOn f s = (.ok a, t)) : f s = .ok (a, t) := by
  unfold whenOn Access.change at h
  dsimp only at h
  split at h
  · next heq =>
    obtain ⟨ha, rfl⟩ := Prod.mk.inj h
    cases ha
    split at heq
    · cases heq
    · exact heq
  · cases h

theorem mem_itemList {s : MemoryStore} {c : Item} :
    c ∈ s.itemList ↔ s.itemMap[c.id]? = some c := by
  rw [itemList, (s.visiting.perm _).mem_iff, List.mem_map]
  constructor
  · rintro ⟨⟨id, i⟩, hmem, rfl⟩
    have hget := Std.ExtTreeMap.mem_toList_iff_getElem?_eq_some.1 hmem
    rw [s.keyed hget]
    exact hget
  · intro hget
    exact ⟨(c.id, c), Std.ExtTreeMap.mem_toList_iff_getElem?_eq_some.2 hget, rfl⟩

theorem nodup_itemList (s : MemoryStore) : (s.itemList.map (·.id)).Nodup := by
  rw [itemList, ((s.visiting.perm _).map _).nodup_iff]
  have hkeys : (s.itemMap.toList.map (·.2)).map (·.id) = s.itemMap.keys := by
    rw [List.map_map, ← Std.ExtTreeMap.map_fst_toList_eq_keys]
    refine List.map_congr_left ?_
    rintro ⟨id, i⟩ hmem
    exact s.keyed (Std.ExtTreeMap.mem_toList_iff_getElem?_eq_some.1 hmem)
  rw [hkeys]
  exact Std.ExtTreeMap.nodup_keys

instance : KeyedStore MemoryStore where
  id_of_get? := by
    intro id s t item h
    have hget := of_whenOn_ok h
    simp only [Except.ok.injEq, Prod.mk.injEq] at hget
    exact s.keyed hget.1

end MemoryStore

instance {σ : Type} [Store σ] [KeyedStore σ] : KeyedStore (World σ) where
  id_of_get? := by
    intro id s t item h
    have hget : (World.onStore (Store.get? id) : Access (World σ) _) s = (.ok (some item), t) := h
    obtain ⟨store, hstore⟩ := Access.exists_of_zoom hget
    exact KeyedStore.id_of_get? hstore

end Vigil
