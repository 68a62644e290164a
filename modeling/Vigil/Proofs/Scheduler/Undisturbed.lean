import Vigil.Proofs.Scheduler.Tick
import Vigil.Proofs.Store.Mirror

/-!
# Items that do not disturb each other

All items that are due go through the loop of one tick. As long as their new due times are in
range, what becomes of an item depends on nothing but itself: `Tick.Settles` says it item by
item, so it is the same whether another item is stored or not. The new due time of an item whose
interval is too long is out of range, and a tick that comes to it ends there: the items that are
due after it are not dispatched at all.
-/

namespace Vigil

/-- The same, with an item taken out of the store. -/
def Shared.without (s : Shared MemoryStore) (id : Uuid) : Shared MemoryStore :=
  { s with world := s.world.drop id }

theorem Shared.getElem?_without (s : Shared MemoryStore) {id other : Uuid} (h : id ≠ other) :
    (s.without id).world.itemMap[other]? = s.world.itemMap[other]? := by
  rw [without, MemoryStore.getElem?_drop, if_neg h]

theorem Shared.itemList_without (s : Shared MemoryStore) (id : Uuid) :
    (s.world.itemList.filter (·.id != id)).Perm (s.without id).world.itemList :=
  MemoryStore.perm_drop (.refl _) id

namespace Tick

variable {timing : Timing} {now horizon : Time} {s : Shared MemoryStore} {t : Tick}

/-! ### Ticks that have nothing to do -/

theorem run_of_stopping {σ : Type} [Store σ] {s : Shared σ} (timing : Timing) (now : Time)
    (h : s.stopping = true) : run timing now s = (⟨now, now, .done, emptyReport⟩, s, []) := by
  rw [run, start, h]
  rfl

theorem run_of_off (hgo : s.stopping = false) (hhorizon : timing.horizon? now = some horizon)
    (hoff : s.world.switchedOff = true) :
    run timing now s = (⟨now, horizon, .done, emptyReport⟩, s, []) :=
  run_of_no_items hgo hhorizon (MemoryStore.whenOn_of_off hoff)

/-! ### What becomes of each item -/

/-- Whether a tick dispatches an item that is stored. -/
def takes (horizon : Time) (claims : Claims) (c : Item) : Bool :=
  isFree claims c && c.isDue horizon

/-- An item after a tick that has dispatched it if it was due and free. -/
def settled (now horizon : Time) (claims : Claims) (c : Item) : Item :=
  if takes horizon claims c then (c.launchedAt? now).getD c else c

/-- A tick has come to its end, and what has become of an item depends only on how it was
stored and whether it was claimed. -/
structure Settles (now horizon : Time) (s : Shared MemoryStore) (t : Tick)
    (after : Shared MemoryStore) : Prop where
  done : t.stage = .done
  dispatched : ∀ id : Uuid, id ∈ t.report.dispatched ↔
    ∃ c, s.world.itemMap[id]? = some c ∧ c.isDue horizon = true ∧ s.claims.holds id = false
  skipped : ∀ id : Uuid, id ∈ t.report.skipped ↔
    ∃ c, s.world.itemMap[id]? = some c ∧ c.isDue horizon = true ∧ s.claims.holds id = true
  stored : ∀ id : Uuid, after.world.itemMap[id]? =
    (s.world.itemMap[id]?).map (settled now horizon s.claims)

theorem mem_ids_filter_candidates {world : MemoryStore} {p : Item → Bool} {id : Uuid} :
    id ∈ ((candidates horizon world.itemList).filter p).map (·.id) ↔
      ∃ c, world.itemMap[id]? = some c ∧ c.isDue horizon = true ∧ p c = true := by
  rw [List.mem_map]
  constructor
  · rintro ⟨c, hc, rfl⟩
    obtain ⟨hmem, hp⟩ := List.mem_filter.1 hc
    obtain ⟨hstored, hdue⟩ := mem_candidates.1 hmem
    exact ⟨c, hstored, hdue, hp⟩
  · rintro ⟨c, hstored, hdue, hp⟩
    obtain rfl := world.keyed hstored
    exact ⟨c, List.mem_filter.2 ⟨mem_candidates.2 ⟨hstored, hdue⟩, hp⟩, rfl⟩

theorem settles_of_swept {after : Shared MemoryStore} {launches : List Launch}
    (hdone : t.stage = .done)
    (h : Swept timing now s
      ((candidates horizon s.world.itemList).filter (isFree s.claims))
      ((candidates horizon s.world.itemList).filter fun c => !isFree s.claims c)
      t after launches) :
    Settles now horizon s t after where
  done := hdone
  dispatched := by
    intro id
    rw [h.report, mem_ids_filter_candidates]
    refine exists_congr fun c => and_congr_right fun hstored => and_congr_right fun _ => ?_
    rw [← s.world.keyed hstored]
    simp [isFree]
  skipped := by
    intro id
    rw [h.report, mem_ids_filter_candidates]
    refine exists_congr fun c => and_congr_right fun hstored => and_congr_right fun _ => ?_
    rw [← s.world.keyed hstored]
    simp [isFree]
  stored := by
    intro id
    by_cases hmem : id ∈ ((candidates horizon s.world.itemList).filter (isFree s.claims)).map (·.id)
    · obtain ⟨c, hc, rfl⟩ := List.mem_map.1 hmem
      obtain ⟨hcandidate, hfree⟩ := List.mem_filter.1 hc
      obtain ⟨hstored, hdue⟩ := mem_candidates.1 hcandidate
      obtain ⟨i, hi, hafter⟩ := h.stored c hc
      rw [hafter, hstored, Option.map_some, settled, takes, hfree, hdue, Bool.and_self, if_pos rfl,
        hi, Option.getD_some]
    · rw [h.others id hmem]
      cases hstored : s.world.itemMap[id]? with
      | none => rfl
      | some c =>
          have hleft : takes horizon s.claims c = false := by
            refine Bool.eq_false_iff.2 fun htakes => hmem ?_
            obtain ⟨hfree, hdue⟩ := Bool.and_eq_true_iff.1 htakes
            exact mem_ids_filter_candidates.2 ⟨c, hstored, hdue, hfree⟩
          rw [Option.map_some, settled, hleft, if_neg Bool.false_ne_true]

/-! ### New due times out of range -/

/-- A candidate that is claimed ends the tick if its new due time is out of range. -/
theorem stage_steps_of_overflow {c : Item} {rest : List Item} {claims : Claims}
    (hstage : t.stage = .claim (c :: rest)) (hclaim : s.claims.claim? c.id = some claims)
    (hon : s.world.switchedOff = false) (hstored : s.world.itemMap[c.id]? = some c)
    (hdue : c.isDue t.horizon = true) (hnone : c.launchedAt? t.now = none) (fuel : Nat)
    (launches : List Launch) :
    (steps timing (fuel + 2) t s launches).1.stage = .overflowed := by
  have hclaimed : t.step timing s = (t.goTo (.reload c.id rest), { s with claims }, none) := by
    simp only [step, hstage, claimStep, hclaim]
  have hoverflowed : ((t.goTo (.reload c.id rest)).step timing { s with claims }).1 =
      t.goTo .overflowed := by
    have hload := MemoryStore.get?_of_on hon c.id
    rw [hstored] at hload
    have hrearm : (t.goTo (.reload c.id rest)).rearm? c = none := by
      rw [rearm?_eq]
      exact hnone
    simp only [goTo] at hrearm
    simp only [step, goTo, reloadStep, hload, hdue, if_true, hrearm]
  have hover : t.isOver = false := by simp only [isOver, hstage]
  rw [steps_succ hover, hclaimed, steps_succ rfl]
  dsimp only
  rw [hoverflowed, steps_of_over rfl]
  rfl

/-! ### Whole ticks -/

theorem length_filter_le_of_sublist {items cs : List Item}
    (h : cs.Sublist (candidates horizon items)) (p : Item → Bool) :
    (cs.filter p).length ≤ items.length := by
  have hperm := (candidates_perm horizon items).length_eq
  have hdue := List.length_filter_le (fun c : Item => c.isDue horizon) items
  have hfilter := List.length_filter_le p cs
  have hsublist := h.length_le
  omega

/-- The candidates up to the first one that is free and whose new due time is out of range. -/
theorem exists_first_overflow {c : Item} (hc : c ∈ s.world.itemList)
    (htakes : takes horizon s.claims c = true) (hnone : c.nextDueAfter? now = none) :
    ∃ good first later, candidates horizon s.world.itemList = good ++ first :: later ∧
      isFree s.claims first = true ∧ first.launchedAt? now = none ∧
      ∀ d ∈ good, isFree s.claims d = true → (d.launchedAt? now).isSome = true := by
  let stuck (c : Item) : Bool := isFree s.claims c && (c.nextDueAfter? now).isNone
  obtain ⟨first, hfirst⟩ : ∃ d, (candidates horizon s.world.itemList).find? stuck = some d := by
    obtain ⟨hfree, hdue⟩ := Bool.and_eq_true_iff.1 htakes
    refine Option.isSome_iff_exists.1 (List.find?_isSome.2 ⟨c, ?_, ?_⟩)
    · exact mem_candidates.2 ⟨MemoryStore.mem_itemList.1 hc, hdue⟩
    · simp [stuck, hfree, hnone]
  obtain ⟨hstuck, good, later, hsplit, hgood⟩ := List.find?_eq_some_iff_append.1 hfirst
  obtain ⟨hfree, hnext⟩ := Bool.and_eq_true_iff.1 hstuck
  refine ⟨good, first, later, hsplit, hfree, ?_, ?_⟩
  · rw [Item.launchedAt?_eq, Option.isNone_iff_eq_none.1 hnext, Option.map_none]
  · intro d hd hfree
    have hnot := hgood d hd
    rw [Item.isSome_launchedAt?]
    simpa [stuck, hfree, Option.isSome_iff_ne_none] using hnot

section

variable (hgo : s.stopping = false) (hon : s.world.switchedOff = false)
  (hhorizon : timing.horizon? now = some horizon)
  (hdelay : ∀ k < s.world.itemList.length, (timing.stagger.times? (k % UInt32.size)).isSome = true)

include hgo hon hhorizon hdelay

theorem settles_run (hrearm : ∀ c ∈ s.world.itemList, takes horizon s.claims c = true →
      (c.nextDueAfter? now).isSome = true) :
    Settles now horizon s (run timing now s).1 (run timing now s).2.1 := by
  have hcandidate {c : Item} (hc : c ∈ candidates horizon s.world.itemList) := mem_candidates.1 hc
  have hrearmed : ∀ c ∈ candidates horizon s.world.itemList, isFree s.claims c = true →
      (c.launchedAt? now).isSome = true := by
    intro c hc hfree
    rw [Item.isSome_launchedAt?]
    refine hrearm c (MemoryStore.mem_itemList.2 (hcandidate hc).1) ?_
    rw [takes, hfree, (hcandidate hc).2, Bool.and_self]
  have hcount := length_filter_le_of_sublist (.refl (candidates horizon s.world.itemList))
    (isFree s.claims)
  obtain ⟨t, after, launches, hsteps, hdone, hswept⟩ :=
    steps_sweep (swept_listed timing now horizon (candidates horizon s.world.itemList) s) rfl
      (Nat.le_refl _) hon (nodup_candidates horizon s.world) (fun c hc => (hcandidate hc).1)
      (fun c hc => (hcandidate hc).2) hrearmed
      (fun k hk => hdelay k (by rw [List.length_nil] at hk; omega))
  rw [run_eq_steps hon hgo hhorizon, hsteps]
  exact settles_of_swept hdone hswept

/-- A tick ends early if the new due time of an item that it takes is out of range. -/
theorem stage_run_of_overflow {c : Item} (hc : c ∈ s.world.itemList)
    (htakes : takes horizon s.claims c = true) (hnone : c.nextDueAfter? now = none) :
    (run timing now s).1.stage = .overflowed := by
  have hcandidate {c : Item} (hc : c ∈ candidates horizon s.world.itemList) := mem_candidates.1 hc
  -- The first such candidate is the one at which the tick ends.
  obtain ⟨good, first, later, hsplit, hfree, hoverflow, hrearmed⟩ :=
    exists_first_overflow hc htakes hnone
  have hmem {d : Item} (hd : d ∈ good) : d ∈ candidates horizon s.world.itemList :=
    hsplit ▸ List.mem_append_left _ hd
  have hfirstmem : first ∈ candidates horizon s.world.itemList :=
    hsplit ▸ List.mem_append_right _ List.mem_cons_self
  have hnodup := nodup_candidates horizon s.world
  rw [hsplit, List.map_append, List.map_cons] at hnodup
  obtain ⟨hgoodnodup, -, hdisjoint⟩ := List.nodup_append.1 hnodup
  have hcount := length_filter_le_of_sublist
    (hsplit ▸ List.sublist_append_left good (first :: later)) (isFree s.claims)
  obtain ⟨fuel', t, after, launches, hsteps, hstage, hhorizon', hfuel, hswept⟩ :=
    steps_sweep_append (swept_listed timing now horizon (candidates horizon s.world.itemList) s)
      (congrArg Stage.claim hsplit)
      (Nat.le_of_eq (congrArg (stepBound <| Stage.claim ·) hsplit.symm)) hon hgoodnodup
      (fun d hd => (hcandidate (hmem hd)).1) (fun d hd => (hcandidate (hmem hd)).2) hrearmed
      (fun k hk => hdelay k (by rw [List.length_nil] at hk; omega))
  have hfresh : first.id ∉ (good.filter (isFree s.claims)).map (·.id) := by
    intro hin
    obtain ⟨d, hd, hid⟩ := List.mem_map.1 hin
    exact hdisjoint d.id (List.mem_map_of_mem (List.mem_of_mem_filter hd)) first.id
      List.mem_cons_self hid
  obtain ⟨claims, hclaim⟩ : ∃ claims, after.claims.claim? first.id = some claims := by
    refine Option.ne_none_iff_exists'.1 ?_
    rw [Ne, Claims.claim?_eq_none_iff, hswept.claims]
    simpa [isFree, hfresh] using hfree
  obtain ⟨fuel, rfl⟩ : ∃ f, fuel' = f + 2 := by
    refine Nat.exists_eq_add_of_le' (Nat.le_trans ?_ hfuel)
    simp only [stepBound, List.length_cons]
    omega
  rw [run_eq_steps hon hgo hhorizon, hsteps]
  refine stage_steps_of_overflow hstage hclaim (hswept.switchedOff.trans hon)
    ((hswept.others first.id hfresh).trans (hcandidate hfirstmem).1) ?_ ?_ fuel launches
  · rw [hhorizon']
    exact (hcandidate hfirstmem).2
  · rw [hswept.now_eq]
    exact hoverflow

end

/-! ### One item more or less -/

/-- Two ticks have done the same to an item. -/
structure SameFor (id : Uuid) (r q : Tick × Shared MemoryStore × List Launch) : Prop where
  dispatched : id ∈ r.1.report.dispatched ↔ id ∈ q.1.report.dispatched
  skipped : id ∈ r.1.report.skipped ↔ id ∈ q.1.report.skipped
  stored : r.2.1.world.itemMap[id]? = q.2.1.world.itemMap[id]?

/-- A tick comes to its end, and does the same to an item whether another one is stored or not. -/
structure Undisturbed (timing : Timing) (now : Time) (s : Shared MemoryStore) : Prop where
  done : (run timing now s).1.stage = .done
  apart : ∀ id other : Uuid, id ≠ other →
    SameFor id (run timing now s) (run timing now (s.without other))

/-- What is the same before is the same after ticks that have come to their ends. -/
theorem sameFor_of_settles {r q : Tick × Shared MemoryStore × List Launch}
    {before : Shared MemoryStore} {id : Uuid} (hr : Settles now horizon s r.1 r.2.1)
    (hq : Settles now horizon before q.1 q.2.1) (hclaims : before.claims = s.claims)
    (hstored : before.world.itemMap[id]? = s.world.itemMap[id]?) : SameFor id r q where
  dispatched := by rw [hr.dispatched, hq.dispatched, hclaims, hstored]
  skipped := by rw [hr.skipped, hq.skipped, hclaims, hstored]
  stored := by rw [hr.stored, hq.stored, hclaims, hstored]

/-- A tick that does nothing with any items disturbs none. -/
theorem undisturbed_of_idle (hdone : t.stage = .done) (hrun : run timing now s = (t, s, []))
    (hothers : ∀ other, run timing now (s.without other) = (t, s.without other, [])) :
    Undisturbed timing now s := by
  refine ⟨by rw [hrun]; exact hdone, fun id other hne => ?_⟩
  rw [hrun, hothers]
  exact ⟨.rfl, .rfl, (s.getElem?_without (Ne.symm hne)).symm⟩

/-- Items do not disturb each other exactly if the new due times of all items that are
dispatched are in range, provided that the tick looks ahead and staggers its launches within
range. -/
theorem undisturbed_iff (hhorizon : timing.horizon? now = some horizon)
    (hdelay : ∀ k < s.world.itemList.length,
      (timing.stagger.times? (k % UInt32.size)).isSome = true) :
    Undisturbed timing now s ↔
      (s.stopping = false → s.world.switchedOff = false → ∀ c ∈ s.world.itemList,
        c.isDue horizon = true → s.claims.holds c.id = false →
          (c.nextDueAfter? now).isSome = true) := by
  have htakes {c : Item} : takes horizon s.claims c = true ↔
      c.isDue horizon = true ∧ s.claims.holds c.id = false := by
    rw [takes, Bool.and_eq_true, and_comm]
    simp [isFree]
  constructor
  · intro h hgo hon c hc hdue hfree
    refine Option.isSome_iff_ne_none.2 fun hnone => ?_
    have hstage := stage_run_of_overflow hgo hon hhorizon hdelay hc (htakes.2 ⟨hdue, hfree⟩) hnone
    rw [h.done] at hstage
    cases hstage
  · intro hrearm
    cases hgo : s.stopping with
    | true =>
        exact undisturbed_of_idle rfl (run_of_stopping timing now hgo)
          fun other => run_of_stopping timing now hgo
    | false =>
        cases hoff : s.world.switchedOff with
        | true =>
            exact undisturbed_of_idle rfl (run_of_off hgo hhorizon hoff)
              fun other => run_of_off hgo hhorizon hoff
        | false =>
            have hsettles := settles_run hgo hoff hhorizon hdelay
              fun c hc htake => hrearm hgo hoff c hc (htakes.1 htake).1 (htakes.1 htake).2
            refine ⟨hsettles.done, fun id other hne => ?_⟩
            have hitems := s.itemList_without other
            have hwithout : Settles now horizon (s.without other) _ _ :=
              settles_run hgo hoff hhorizon
                (fun k hk => hdelay k (Nat.lt_of_lt_of_le hk
                  (hitems.length_eq ▸ List.length_filter_le _ _)))
                fun c hc htake => hrearm hgo hoff c
                  (List.mem_of_mem_filter (hitems.mem_iff.2 hc)) (htakes.1 htake).1
                  (htakes.1 htake).2
            exact sameFor_of_settles hsettles hwithout rfl (s.getElem?_without (Ne.symm hne))

theorem undisturbed_iff_sample : Undisturbed .standard .epoch Sample.shared := by
  have hhorizon : Timing.standard.horizon? .epoch = some Sample.horizon := rfl
  exact (undisturbed_iff hhorizon (by decide +kernel)).2 fun _ _ => by decide +kernel

namespace Sample

/-- An item that is due, with an interval that no span of time can hold. -/
def endless : Item :=
  { Sample.item with
    id := ⟨0⟩
    settings := { Sample.item.settings with intervalSeconds := 9223372036854775807 } }

/-- Two items that are due, of which one has an endless interval. -/
def crowded : Shared MemoryStore where
  world := (MemoryStore.empty.put Sample.item).put endless
  claims := .empty
  stopping := false

end Sample

/-- An endless interval keeps a tick from the item that is due next; without it the tick
dispatches that item. -/
theorem disturbed_sample :
    ¬Undisturbed .standard .epoch Sample.crowded ∧
      (run .standard .epoch Sample.crowded).1.stage = .overflowed ∧
      (run .standard .epoch Sample.crowded).1.report = ⟨[], []⟩ ∧
      (run .standard .epoch (Sample.crowded.without Sample.endless.id)).1.report =
        ⟨[Sample.item.id], []⟩ := by
  have hhorizon : Timing.standard.horizon? .epoch = some Sample.horizon := rfl
  have hcandidates : candidates Sample.horizon Sample.crowded.world.itemList =
      [Sample.endless, Sample.item] :=
    List.mergeSort_of_pairwise (l := [Sample.endless, Sample.item]) (by decide +kernel)
  have hothers : candidates Sample.horizon
      (Sample.crowded.without Sample.endless.id).world.itemList = [Sample.item] :=
    List.mergeSort_of_pairwise (l := [Sample.item]) (by decide +kernel)
  have hstage : (run .standard .epoch Sample.crowded).1.stage = .overflowed := by
    rw [run_eq_steps rfl rfl hhorizon, hcandidates]
    rfl
  refine ⟨fun h => ?_, hstage, ?_, ?_⟩
  · have hdone := h.done
    rw [hstage] at hdone
    cases hdone
  · rw [run_eq_steps rfl rfl hhorizon, hcandidates]
    decide +kernel
  · rw [run_eq_steps rfl rfl hhorizon, hothers]
    decide +kernel

end Tick

end Vigil
