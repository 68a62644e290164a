import Vigil.Proofs.Scheduler.Outage
import Vigil.Proofs.Scheduler.Pace
import Vigil.Scheduler.Retest

/-!
# Retests of all items

A retest of all items lists those that are not in normal health and writes one after another as
its next check is to find it: due since a second ago, and with nothing known about it. A write that
fails is passed over. So it counts the writes that came through, and these are all that it does
(`World.Resets`). What it has reset is due at every later tick, as long as nothing else is written.
-/

namespace Vigil

/-- The item as a retest leaves it that makes it due at a time. -/
def Item.resetAt (due : Time) (i : Item) : Item :=
  { i with
    progress := { i.progress with nextDue := due, state := .unknown, readings := .empty } }

theorem Item.forRetest?_of_add? {now due : Time} (h : now.add? ⟨-1000000000⟩ = some due)
    (i : Item) : i.forRetest? now = some (i.resetAt due) := by
  rw [forRetest?, h]
  rfl

namespace World

variable {u v w : World MemoryStore}

/-! ### Worlds with other items -/

/-- The second world differs from the first one at most in the items that are stored. -/
structure SameBesidesItems (w v : World MemoryStore) : Prop where
  records : v.store.inner.records = w.store.inner.records
  eventLog : v.store.inner.eventLog = w.store.inner.eventLog
  nodes : v.store.inner.nodes = w.store.inner.nodes
  switchedOff : v.store.inner.switchedOff = w.store.inner.switchedOff
  outside : v = w.withInner v.store.inner

namespace SameBesidesItems

theorem refl (w : World MemoryStore) : SameBesidesItems w w := ⟨rfl, rfl, rfl, rfl, rfl⟩

theorem trans (huv : SameBesidesItems u v) (hvw : SameBesidesItems v w) :
    SameBesidesItems u w where
  records := hvw.records.trans huv.records
  eventLog := hvw.eventLog.trans huv.eventLog
  nodes := hvw.nodes.trans huv.nodes
  switchedOff := hvw.switchedOff.trans huv.switchedOff
  outside := by
    rw [hvw.outside, huv.outside]
    rfl

theorem withInner_put (w : World MemoryStore) (i : Item) :
    SameBesidesItems w (w.withInner (w.store.inner.put i)) := ⟨rfl, rfl, rfl, rfl, rfl⟩

theorem answers (h : SameBesidesItems w v) : v.answers = w.answers := by
  have hoff := h.switchedOff
  funext c
  rw [World.answers, World.answers, hoff, h.outside]
  rfl

end SameBesidesItems

/-- A call that writes an item which is stored with another progress stores it as it is given. -/
theorem update_of_answers {i : Item} (h : w.answers (.update i.id) = true)
    (hstored : w.item? i.id = some i) (progress : Progress) :
    (Store.update { i with progress } : Access (World MemoryStore) _) w =
      (.ok (), w.withInner (w.store.inner.put { i with progress })) := by
  change call (.update i.id) (MemoryStore.modifyItem i.id fun _ => progress) w = _
  have hlook : w.store.inner.itemMap[i.id]? = some i := hstored
  rw [MemoryStore.modifyItem]
  exact call_of_answers h (by rw [hlook])

theorem update_of_not_answers {i : Item} (h : w.answers (.update i.id) = false) :
    ∃ e, (Store.update i : Access (World MemoryStore) _) w = (.error e, w) :=
  call_of_not_answers h _

/-! ### Items that are reset -/

/-- The second world is the first one after some of its items were reset. -/
structure Resets (due : Time) (reset : List Item) (w v : World MemoryStore) : Prop where
  same : SameBesidesItems w v
  stored : ∀ i ∈ reset, v.item? i.id = some (i.resetAt due)
  others : ∀ id ∉ reset.map (·.id), v.item? id = w.item? id

theorem resets_nil (due : Time) (w : World MemoryStore) : Resets due [] w w :=
  ⟨.refl w, List.forall_mem_nil _, fun _ _ => rfl⟩

theorem Resets.cons {due : Time} {i : Item} {reset : List Item}
    (h : Resets due reset (w.withInner (w.store.inner.put (i.resetAt due))) v)
    (hfresh : i.id ∉ reset.map (·.id)) : Resets due (i :: reset) w v where
  same := (SameBesidesItems.withInner_put w _).trans h.same
  stored := by
    refine List.forall_mem_cons.2 ⟨?_, h.stored⟩
    exact (h.others i.id hfresh).trans (MemoryStore.getElem?_put_of_eq rfl _)
  others := by
    intro id hid
    obtain ⟨hne, hrest⟩ := not_or.1 (mt List.mem_cons.2 hid)
    refine (h.others id hrest).trans (MemoryStore.getElem?_put_of_ne ?_ _)
    exact Ne.symm hne

/-- The items that are not in normal health and whose writes are answered. -/
def pending (w : World MemoryStore) : List Item :=
  w.store.inner.itemList.filter fun i =>
    decide (i.progress.state ≠ .normal) && w.answers (.update i.id)

theorem mem_pending {i : Item} : i ∈ w.pending ↔
    w.item? i.id = some i ∧ i.progress.state ≠ .normal ∧ w.answers (.update i.id) = true := by
  rw [pending, List.mem_filter, MemoryStore.mem_itemList, Bool.and_eq_true, decide_eq_true_iff]
  rfl

/-- What becomes of each item when those that are pending are reset. -/
theorem Resets.item?_eq {due : Time} (h : Resets due w.pending w v) (id : Uuid) :
    v.item? id = (w.item? id).map fun i =>
      if i.progress.state ≠ .normal ∧ w.answers (.update id) = true then i.resetAt due else i := by
  cases hitem : w.item? id with
  | none =>
      refine (h.others id fun hmem => ?_).trans hitem
      obtain ⟨i, hi, rfl⟩ := List.mem_map.1 hmem
      cases hitem.symm.trans (mem_pending.1 hi).1
  | some i =>
      obtain rfl := id_of_item? hitem
      rw [Option.map_some]
      split
      · next hpending => exact h.stored i (mem_pending.2 ⟨hitem, hpending⟩)
      · next hpending =>
        refine (h.others i.id fun hmem => hpending ?_).trans hitem
        obtain ⟨j, hj, hid⟩ := List.mem_map.1 hmem
        obtain ⟨hstored, hj⟩ := mem_pending.1 hj
        rw [hid, hitem] at hstored
        rwa [← Option.some.inj hstored] at hj

end World

namespace Retest

variable {now due : Time} {w : World MemoryStore}

/-- The loop over the items that were listed resets those whose writes are answered, and counts
them. -/
theorem exists_writeAll (hdue : now.add? ⟨-1000000000⟩ = some due) {items : List Item}
    (hnodup : (items.map (·.id)).Nodup) (hstored : ∀ i ∈ items, w.item? i.id = some i)
    (count : Nat) :
    ∃ v, writeAll now items count w =
        (some (count + (items.filter fun i => w.answers (.update i.id)).length), v) ∧
      World.Resets due (items.filter fun i => w.answers (.update i.id)) w v := by
  induction items generalizing count w with
  | nil => exact ⟨w, rfl, World.resets_nil due w⟩
  | cons i items ih =>
      rw [List.map_cons, List.nodup_cons] at hnodup
      obtain ⟨hfirst, hrest⟩ := List.forall_mem_cons.1 hstored
      rw [writeAll, i.forRetest?_of_add? hdue]
      cases hanswers : w.answers (.update i.id) with
      | false =>
          obtain ⟨e, herror⟩ := World.update_of_not_answers (i := i.resetAt due) hanswers
          rw [List.filter_cons_of_neg (by simp [hanswers])]
          simp only [herror]
          exact ih hnodup.2 hrest count
      | true =>
          have hdone : (Store.update (i.resetAt due) : Access (World MemoryStore) _) w =
              (.ok (), w.withInner (w.store.inner.put (i.resetAt due))) :=
            World.update_of_answers hanswers hfirst _
          have hsame := World.SameBesidesItems.withInner_put w (i.resetAt due)
          have hkept : ∀ j ∈ items,
              (w.withInner (w.store.inner.put (i.resetAt due))).item? j.id = some j := by
            intro j hj
            have hne : (i.resetAt due).id ≠ j.id :=
              fun hid => hnodup.1 (hid ▸ List.mem_map_of_mem hj)
            exact (MemoryStore.getElem?_put_of_ne hne _).trans (hrest j hj)
          obtain ⟨v, hall, hresets⟩ := ih hnodup.2 hkept (count + 1)
          rw [hsame.answers] at hall hresets
          rw [List.filter_cons_of_pos (by exact hanswers), List.length_cons]
          refine ⟨v, ?_, hresets.cons fun hmem => ?_⟩
          · simp only [hdone, hall]
            rw [Nat.add_right_comm, Nat.add_assoc]
          · obtain ⟨j, hj, hid⟩ := List.mem_map.1 hmem
            exact hnodup.1 (hid ▸ List.mem_map_of_mem (List.mem_filter.1 hj).1)

/-- A retest of all items resets those that are pending, and counts them. -/
theorem exists_all (hhooks : w.store.afterItems = []) (hlist : w.answers .items = true)
    (hdue : now.add? ⟨-1000000000⟩ = some due) :
    ∃ v, all now w = (.ok w.pending.length, v) ∧ World.Resets due w.pending w v := by
  have hnodup : ((w.store.inner.itemList.filter isPending).map (·.id)).Nodup :=
    w.store.inner.nodup_itemList.sublist (List.filter_sublist.map _)
  have hstored : ∀ i ∈ w.store.inner.itemList.filter isPending, w.item? i.id = some i :=
    fun i hi => MemoryStore.mem_itemList.1 (List.mem_filter.1 hi).1
  have hpending : (w.store.inner.itemList.filter isPending).filter
      (fun i => w.answers (.update i.id)) = w.pending := by
    rw [List.filter_filter, World.pending]
    refine List.filter_congr fun i _ => ?_
    rw [Bool.and_comm, isPending, bne, Bool.beq_eq_decide_eq, decide_not]
  obtain ⟨v, hall, hresets⟩ := exists_writeAll hdue hnodup hstored 0
  rw [hpending, Nat.zero_add] at hall
  rw [hpending] at hresets
  refine ⟨v, ?_, hresets⟩
  rw [all, World.items_of_answers hhooks hlist]
  simp only [hall]

/-- A retest that cannot list the items does nothing. -/
theorem exists_all_of_not_answers (hhooks : w.store.afterItems = [])
    (hlist : w.answers .items = false) (now : Time) :
    ∃ e, all now w = (.error (.store e), w) := by
  obtain ⟨e, herror⟩ := World.items_of_not_answers hhooks hlist
  refine ⟨e, ?_⟩
  rw [all, herror]

end Retest

/-! ### Later ticks -/

namespace Tick

variable {timing : Timing} {now horizon : Time} {s : Shared (World MemoryStore)}

/-- The new due times of the items that a tick takes and the delays of its launches have results. -/
structure Reckons (timing : Timing) (now horizon : Time) (s : Shared (World MemoryStore)) :
    Prop where
  rearm : ∀ c ∈ s.world.store.inner.itemList, c.isDue horizon = true →
    s.claims.holds c.id = false → (c.nextDueAfter? now).isSome = true
  delay : ∀ k < (s.world.store.inner.itemList.filter fun c =>
      isFree s.claims c && c.isDue horizon).length,
    (timing.stagger.times? (k % UInt32.size)).isSome = true

/-- A tick has come to its end, and an item was due: it was dispatched if it was free, and skipped
if it was in flight. -/
structure Takes (id : Uuid) (s : Shared (World MemoryStore)) (t : Tick) : Prop where
  done : t.stage = .done
  dispatched : id ∈ t.report.dispatched ↔ s.claims.holds id = false
  skipped : id ∈ t.report.skipped ↔ s.claims.holds id = true

theorem takes_of_isDue (hgo : s.stopping = false) (hw : s.world.Healthy)
    (hhooks : s.world.store.afterItems = []) (hhorizon : timing.horizon? now = some horizon)
    (hreckons : Reckons timing now horizon s) {i : Item} (hstored : s.world.item? i.id = some i)
    (hdue : i.isDue horizon = true) : Takes i.id s (run timing now s).1 := by
  obtain ⟨t, after, launches, hrun, hdone, hendured⟩ := endured_run hgo hhooks hhorizon
    hreckons.rearm hreckons.delay (hw.answers .items)
  have hlook : s.world.store.inner.itemMap[i.id]? = some i := hstored
  rw [hrun]
  refine ⟨hdone, ?_, ?_⟩
  · rw [hendured.report, mem_ids_filter_candidates, hlook]
    simp [hdue, reaches, isFree, hw.answers]
  · rw [hendured.report, mem_ids_filter_candidates, hlook]
    simp [hdue, isFree]

end Tick

namespace Sample

/-- Two items, of which the second one cannot be written. -/
def halfWritten : World MemoryStore :=
  { world with
    store :=
      { inner := (MemoryStore.empty.put item).put Tick.Sample.second
        fails := fun c => c == .update Tick.Sample.second.id
        afterItems := [] } }

/-- The first minute of 1970 is over. -/
def pastMinute : Time := (Time.ofParts? 60 0).getD .epoch

def secondEarlier : Time := (Time.ofParts? 59 0).getD .epoch

end Sample

namespace Retest

variable {now due : Time} {w : World MemoryStore}

/-- What a retest of all items does, and what follows for the items that it resets. -/
structure ResetsPending (now due : Time) (w : World MemoryStore) : Prop where
  /-- Without a listing it does nothing. -/
  unlisted : w.answers .items = false → ∃ e, all now w = (.error (.store e), w)
  /-- It counts the items that are not in normal health and whose writes are answered. -/
  counted : w.answers .items = true → (all now w).1 = .ok w.pending.length
  /-- It resets these and no other items. -/
  item? : w.answers .items = true → ∀ id, (all now w).2.item? id = (w.item? id).map fun i =>
    if i.progress.state ≠ .normal ∧ w.answers (.update id) = true then i.resetAt due else i
  same : World.SameBesidesItems w (all now w).2
  /-- Whatever has happened since, an enabled item that was reset and not written again is taken by
  the next tick, unless the scheduler is shutting down. -/
  taken : w.answers .items = true → ∀ i ∈ w.pending, i.settings.enabled = true →
    ∀ (timing : Timing) (t horizon : Time) (s : Shared (World MemoryStore)), due ≤ t →
      timing.horizon? t = some horizon → s.stopping = false → s.world.Healthy →
        s.world.store.afterItems = [] → Tick.Reckons timing t horizon s →
          s.world.item? i.id = (all now w).2.item? i.id →
            Tick.Takes i.id s (Tick.run timing t s).1

/-- Whatever calls of the store fail, a retest of all items resets what it counts, and this is due
from a second before it on. -/
theorem resets_pending (hhooks : w.store.afterItems = [])
    (hdue : now.add? ⟨-1000000000⟩ = some due) : ResetsPending now due w := by
  cases hlist : w.answers .items with
  | false =>
      obtain ⟨e, hall⟩ := exists_all_of_not_answers hhooks hlist now
      refine ⟨fun _ => ⟨e, hall⟩, fun h => ?_, fun h => ?_, ?_, fun h => ?_⟩
      · cases hlist.symm.trans h
      · cases hlist.symm.trans h
      · rw [hall]
        exact .refl w
      · cases hlist.symm.trans h
  | true =>
      obtain ⟨v, hall, hresets⟩ := exists_all hhooks hlist hdue
      refine ⟨fun h => ?_, fun _ => ?_, fun _ id => ?_, ?_, ?_⟩
      · cases hlist.symm.trans h
      · rw [hall]
      · rw [hall]
        exact hresets.item?_eq id
      · rw [hall]
        exact hresets.same
      · intro _ i hi henabled timing t horizon s hlater hhorizon hgo hw hafter hreckons hkept
        rw [hall, hresets.stored i hi] at hkept
        refine Tick.takes_of_isDue (i := i.resetAt due) hgo hw hafter hhorizon hreckons hkept ?_
        exact Item.isDue_iff.2 ⟨henabled, Time.le_trans hlater (Timing.le_of_horizon? hhorizon)⟩

theorem resets_pending_sample :
    Sample.halfWritten.store.afterItems = [] ∧
      Sample.pastMinute.add? ⟨-1000000000⟩ = some Sample.secondEarlier ∧
      ResetsPending Sample.pastMinute Sample.secondEarlier Sample.halfWritten :=
  ⟨rfl, rfl, resets_pending rfl rfl⟩

/-- A tick of a scheduler that is shutting down takes nothing, whatever was reset. -/
theorem not_taken_sample :
    let after := (all Sample.pastMinute Sample.world).2
    let s : Shared (World MemoryStore) := ⟨after, .empty, true⟩
    (all Sample.pastMinute Sample.world).1 = .ok 1 ∧
      after.item? Sample.item.id = some (Sample.item.resetAt Sample.secondEarlier) ∧
      Sample.item.settings.enabled = true ∧ Sample.secondEarlier ≤ Sample.pastMinute ∧
      s.claims.holds Sample.item.id = false ∧
      (Tick.run .standard Sample.pastMinute s).1.report = ⟨[], []⟩ := by
  intro after s
  have hdue : Sample.pastMinute.add? ⟨-1000000000⟩ = some Sample.secondEarlier := rfl
  obtain ⟨v, hall, hresets⟩ := exists_all (w := Sample.world) rfl rfl hdue
  have hpending : Sample.world.pending = [Sample.item] := rfl
  rw [hpending] at hall hresets
  refine ⟨by rw [hall]; rfl, ?_, rfl, by decide, rfl, ?_⟩
  · have hafter : after = v := congrArg Prod.snd hall
    rw [hafter]
    exact hresets.stored Sample.item List.mem_cons_self
  · rw [Tick.run_of_stopping .standard Sample.pastMinute rfl]
    rfl

end Retest

end Vigil
