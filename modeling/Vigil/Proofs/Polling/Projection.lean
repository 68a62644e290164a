import Vigil.Proofs.Polling.Lane

/-!
# From a polling to its lanes

`Polling.lane` is what a polling looks like from one item. An action that does not
change the items from outside is one step in each lane.
-/

namespace Vigil

/-- An action that does not change the items from outside. -/
def Action.Harmless : Action (World MemoryStore) → Prop
  | .outside change => ∀ w, World.SameItems w (change w)
  | _ => True

/-! ### Retests -/

namespace RetestStage

theorem world_load (id : Uuid) (w : World MemoryStore) :
    ((Retest.load id : Access (World MemoryStore) _) w).2 = w := by
  unfold Retest.load
  rcases World.get?_cases id w with hget | ⟨e, hget⟩
  · rw [Access.bind_of_ok hget]
    cases w.item? id <;> rfl
  · rw [Access.bind_of_error hget]

/-- A call of a retest writes the item that it resets, or none. -/
theorem step_cases (now : Time) (w : World MemoryStore) (r : RetestStage)
    (hhooks : w.store.afterItems = []) :
    (World.SameItems w (r.step now w).2.1 ∧ (r.step now w).2.2 = []) ∨
      ∃ (asked : Time) (loaded new : Item), loaded.forRetest? asked = some new ∧
        World.Writes new.id (fun _ => new.progress) w (r.step now w).2.1 ∧
        (r.step now w).2.2 = [.reset asked new] := by
  cases r with
  | load id =>
      have hload := world_load id w
      simp only [step]
      split
      · next h =>
        rw [h] at hload
        exact Or.inl ⟨.of_store (congrArg World.store hload), rfl⟩
      · next h =>
        rw [h] at hload
        exact Or.inl ⟨.of_store (congrArg World.store hload), rfl⟩
  | list =>
      have hlist := World.sameItems_items hhooks
      simp only [step]
      split
      · next h =>
        rw [h] at hlist
        exact Or.inl ⟨hlist, rfl⟩
      · next h =>
        rw [h] at hlist
        exact Or.inl ⟨hlist, rfl⟩
  | writeOne asked item =>
      simp only [step]
      cases hnew : item.forRetest? asked with
      | none => exact Or.inl ⟨.refl w, rfl⟩
      | some new =>
          dsimp only
          rcases World.update_cases new w with ⟨v, hok, hwrites⟩ | ⟨e, herror⟩
          · rw [hok]
            exact Or.inr ⟨asked, item, new, hnew, hwrites, rfl⟩
          · rw [herror]
            exact Or.inl ⟨.refl w, rfl⟩
  | writeAll asked rest count =>
      cases rest with
      | nil => exact Or.inl ⟨.refl w, rfl⟩
      | cons item rest =>
          simp only [step]
          cases hnew : item.forRetest? asked with
          | none => exact Or.inl ⟨.refl w, rfl⟩
          | some new =>
              dsimp only
              rcases World.update_cases new w with ⟨v, hok, hwrites⟩ | ⟨e, herror⟩
              · rw [hok]
                exact Or.inr ⟨asked, item, new, hnew, hwrites, rfl⟩
              · rw [herror]
                exact Or.inl ⟨.refl w, rfl⟩
  | done result => exact Or.inl ⟨.refl w, rfl⟩

theorem lane_step (now : Time) (w : World MemoryStore) (r : RetestStage)
    (hhooks : w.store.afterItems = []) (id : Uuid) (c : Option Copy) (stopping : Bool) :
    Lane.Step ⟨w.item? id, c, stopping⟩ (Milestone.about id (r.step now w).2.2)
      ⟨(r.step now w).2.1.item? id, c, stopping⟩ := by
  rcases step_cases now w r hhooks with
    ⟨hsame, hnothing⟩ | ⟨asked, loaded, new, hnew, hwrites, hreset⟩
  · rw [hnothing, hsame.item?]
    exact .same _
  · rw [hreset]
    by_cases hid : new.id = id
    · subst hid
      obtain ⟨old, hold, hwritten⟩ := hwrites.item?
      rw [hold, hwritten, Milestone.about_eq_self (by simp)]
      exact .reset old c stopping hnew
    · rw [Milestone.about_eq_nil (by simp) hid, hwrites.others id (Ne.symm hid)]
      exact .same _

theorem afterItems_step (now : Time) (w : World MemoryStore) (r : RetestStage)
    (hhooks : w.store.afterItems = []) : (r.step now w).2.1.store.afterItems = [] := by
  rcases step_cases now w r hhooks with ⟨hsame, -⟩ | ⟨asked, loaded, new, -, hwrites, -⟩
  · rw [hsame.afterItems, hhooks]
  · rw [hwrites.afterItems, hhooks]

end RetestStage

/-! ### Ticks -/

namespace Tick

theorem stopping_step {σ : Type} [Store σ] (timing : Timing) (t : Tick) (s : Shared σ) :
    (t.step timing s).2.1.stopping = s.stopping := by
  cases hstage : t.stage with
  | enumerate =>
      simp only [step, hstage, enumerateStep]
      split <;> rfl
  | claim rest =>
      cases rest with
      | nil => simp only [step, hstage]
      | cons candidate rest =>
          simp only [step, hstage, claimStep]
          split <;> rfl
  | reload claim rest =>
      simp only [step, hstage, reloadStep]
      split
      · split
        · split <;> rfl
        · rfl
      · rfl
  | reschedule claim item rest => simp only [step, hstage, rescheduleStep]
  | launch claim item rest =>
      simp only [step, hstage, launchStep]
      split <;> rfl
  | done => simp only [step, hstage]
  | overflowed => simp only [step, hstage]

theorem world_release {σ : Type} (t : Tick) (s : Shared σ) : (t.release s).world = s.world := by
  unfold release
  split <;> rfl

theorem stopping_release {σ : Type} (t : Tick) (s : Shared σ) :
    (t.release s).stopping = s.stopping := by
  unfold release
  split <;> rfl

theorem afterItems_step (timing : Timing) (t : Tick) {s : Shared (World MemoryStore)}
    (hhooks : s.world.store.afterItems = []) :
    (t.step timing s).2.1.world.store.afterItems = [] := by
  cases hstage : t.stage with
  | enumerate =>
      have hsame := (World.sameItems_items hhooks).afterItems
      rw [hhooks] at hsame
      simp only [step, hstage, enumerateStep]
      split
      · next h =>
        rw [h] at hsame
        exact hsame
      · next h =>
        rw [h] at hsame
        exact hsame
  | claim rest =>
      cases rest with
      | nil =>
          simp only [step, hstage]
          exact hhooks
      | cons candidate rest =>
          simp only [step, hstage, claimStep]
          split <;> exact hhooks
  | reload claim rest =>
      rw [(reload_cases (s := s) timing hstage).1]
      exact hhooks
  | reschedule claim item rest =>
      simp only [step, hstage, rescheduleStep]
      rcases World.reschedule_cases item.id item.progress.nextDue item.progress.lastRun s.world with
        ⟨v, hok, hwrites⟩ | ⟨e, herror⟩
      · rw [hok]
        exact hwrites.afterItems.trans hhooks
      · rw [herror]
        exact hhooks
  | launch claim item rest =>
      simp only [step, hstage, launchStep]
      split <;> exact hhooks
  | done =>
      simp only [step, hstage]
      exact hhooks
  | overflowed =>
      simp only [step, hstage]
      exact hhooks

end Tick

/-! ### Dispatches -/

namespace Task

theorem world_release {σ : Type} (t : Task) (s : Shared σ) : (t.release s).world = s.world := by
  unfold release
  split <;> rfl

theorem stopping_release {σ : Type} (t : Task) (s : Shared σ) :
    (t.release s).stopping = s.stopping := by
  unfold release
  split <;> rfl

end Task

/-! ### Pollings -/

namespace Polling

variable {timing : Timing} {p : Polling (World MemoryStore)} {id : Uuid} {n : Nat}

/-- What every polling of a store in memory keeps to. -/
structure Sound (p : Polling (World MemoryStore)) : Prop where
  accounted : Accounted p.shared.claims p.guards
  keyed : p.Keyed
  own : ∀ t ∈ p.tasks, t.Own
  afterItems : p.shared.world.store.afterItems = []

theorem sound_start {w : World MemoryStore} (h : w.store.afterItems = []) : (start w).Sound :=
  ⟨.empty, keyed_start w, by simp [start], h⟩

theorem own_setTask (h : ∀ t ∈ p.tasks, t.Own) {r : Task × List Milestone} (hr : r.1.Own) :
    ∀ t ∈ (p.setTask n r).tasks, t.Own := by
  intro t ht
  rcases List.mem_or_eq_of_mem_set ht with ht | rfl
  · exact h t ht
  · exact hr

theorem own_act (timing : Timing) (h : ∀ t ∈ p.tasks, t.Own) (a : Action (World MemoryStore)) :
    ∀ t ∈ (p.act timing a).tasks, t.Own := by
  cases a with
  | stepTick n =>
      simp only [act]
      split
      · exact h
      · intro t ht
        rcases List.mem_append.1 ht with ht | ht
        · exact h t ht
        · obtain ⟨l, -, rfl⟩ := Option.map_eq_some_iff.1 (Option.mem_toList.1 ht)
          exact Task.own_ofLaunch l
  | dropTick n =>
      simp only [act]
      split <;> exact h
  | beginCheck n program now =>
      simp only [act]
      split
      · exact h
      · next t ht =>
        exact own_setTask h (Task.own_beginCheck (h t (List.mem_of_getElem? ht)) _ _ _ _)
  | endCheck n waits now =>
      simp only [act]
      split
      · exact h
      · next t ht =>
        exact own_setTask h (Task.own_endCheck (h t (List.mem_of_getElem? ht)) _ _)
  | effect n now =>
      simp only [act]
      split
      · exact h
      · next t ht =>
        exact own_setTask h (r := (_, t.milestones now p.shared))
          (Task.own_recordStep (h t (List.mem_of_getElem? ht)) now p.shared)
  | dropTask n =>
      simp only [act]
      split
      · exact h
      · exact fun t ht => h t (List.mem_of_mem_eraseIdx ht)
  | stepRetest n now =>
      simp only [act]
      split <;> exact h
  | startTick now => exact h
  | startRetest id => exact h
  | startRetestAll => exact h
  | shutDown => exact h
  | outside change => exact h

theorem afterItems_act (timing : Timing) (h : p.shared.world.store.afterItems = [])
    {a : Action (World MemoryStore)} (ha : a.Harmless) :
    (p.act timing a).shared.world.store.afterItems = [] := by
  cases a with
  | stepTick n =>
      simp only [act]
      split
      · exact h
      · exact Tick.afterItems_step timing _ h
  | dropTick n =>
      simp only [act]
      split
      · exact h
      · unfold Tick.release
        split <;> exact h
  | beginCheck n program now =>
      simp only [act]
      split <;> exact h
  | endCheck n waits now =>
      simp only [act]
      split <;> exact h
  | effect n now =>
      simp only [act]
      split
      · exact h
      · exact (Task.afterItems_recordStep _ now p.shared).trans h
  | dropTask n =>
      simp only [act]
      split
      · exact h
      · unfold Task.release
        split <;> exact h
  | stepRetest n now =>
      simp only [act]
      split
      · exact h
      · exact RetestStage.afterItems_step now _ _ h
  | outside change => exact (ha _).afterItems.trans h
  | startTick now => exact h
  | startRetest id => exact h
  | startRetestAll => exact h
  | shutDown => exact h

theorem sound_act (timing : Timing) (h : p.Sound) {a : Action (World MemoryStore)}
    (ha : a.Harmless) : (p.act timing a).Sound where
  accounted := accounted_act timing h.accounted a
  keyed := keyed_act timing h.keyed a
  own := own_act timing h.own a
  afterItems := afterItems_act timing h.afterItems ha

/-! ### Lanes -/

/-- The copies of an item that are worked on. -/
def copies (timing : Timing) (id : Uuid) (p : Polling (World MemoryStore)) : List Copy :=
  p.ticks.filterMap (Tick.copy? timing id) ++ p.tasks.filterMap (Task.copy? id)

/-- What a polling looks like from one item. -/
def lane (timing : Timing) (id : Uuid) (p : Polling (World MemoryStore)) : Lane :=
  ⟨p.shared.world.item? id, (p.copies timing id).head?, p.shared.stopping⟩

theorem length_tickCopies_le (timing : Timing) (id : Uuid) (ts : List Tick) :
    (ts.filterMap (Tick.copy? timing id)).length ≤ (ts.filterMap Tick.guard?).count id := by
  rw [List.length_filterMap_eq_countP, List.count_filterMap]
  refine List.countP_mono_left ?_
  intro t _ hcopy
  rw [Tick.guard?_of_copy? hcopy]
  exact beq_self_eq_true _

theorem length_taskCopies_le {ts : List Task} (h : ∀ t ∈ ts, t.claim = some t.item.id)
    (id : Uuid) : (ts.filterMap (Task.copy? id)).length ≤ (ts.filterMap Task.claim).count id := by
  rw [List.length_filterMap_eq_countP, List.count_filterMap]
  refine List.countP_mono_left ?_
  intro t ht hcopy
  have hid : t.item.id = id := by
    by_contra hne
    rw [Task.copy?, if_neg hne] at hcopy
    simp at hcopy
  rw [h t ht, hid]
  exact beq_self_eq_true _

theorem length_copies_le (h : p.Sound) (timing : Timing) (id : Uuid) :
    (p.copies timing id).length ≤ 1 := by
  have hticks := length_tickCopies_le timing id p.ticks
  have htasks := length_taskCopies_le h.keyed.tasks id
  have hone := List.nodup_iff_count_le_one.1 h.accounted.nodup id
  rw [guards, List.count_append] at hone
  rw [copies, List.length_append]
  omega

/-- At most one copy of an item is worked on, so it does not matter in which order
ticks and dispatches are listed. -/
theorem copies_eq_of_perm (h : p.Sound) {l : List Copy} (hl : (p.copies timing id).Perm l) :
    p.copies timing id = l := by
  have hone := length_copies_le h timing id
  match hcopies : p.copies timing id with
  | [] =>
      rw [hcopies] at hl
      exact (List.nil_perm.1 hl).symm
  | [c] =>
      rw [hcopies] at hl
      exact (List.perm_singleton.1 hl.symm).symm
  | c :: d :: rest =>
      rw [hcopies] at hone
      simp at hone

/-- The copies that are worked on by others than one tick. -/
def copiesBesideTick (timing : Timing) (id : Uuid) (p : Polling (World MemoryStore)) (n : Nat) :
    List Copy :=
  (p.ticks.eraseIdx n).filterMap (Tick.copy? timing id) ++ p.tasks.filterMap (Task.copy? id)

/-- The copies that are worked on by others than one dispatch. -/
def copiesBesideTask (timing : Timing) (id : Uuid) (p : Polling (World MemoryStore)) (n : Nat) :
    List Copy :=
  p.ticks.filterMap (Tick.copy? timing id) ++ (p.tasks.eraseIdx n).filterMap (Task.copy? id)

theorem copies_eq_of_tick (timing : Timing) (id : Uuid) (h : p.Sound) {t : Tick}
    (ht : p.ticks[n]? = some t) :
    p.copies timing id = (t.copy? timing id).toList ++ p.copiesBesideTick timing id n :=
  copies_eq_of_perm h (filterMap_perm_left _ _ ht)

theorem copies_eq_of_task (timing : Timing) (id : Uuid) (h : p.Sound) {t : Task}
    (ht : p.tasks[n]? = some t) :
    p.copies timing id = (t.copy? id).toList ++ p.copiesBesideTask timing id n :=
  copies_eq_of_perm h (filterMap_perm_right _ _ ht)

theorem lane_start (timing : Timing) (id : Uuid) (w : World MemoryStore) :
    (start w).lane timing id = ⟨w.item? id, none, false⟩ := rfl

/-- The copy of an item that no dispatch works on is in the hands of a tick. -/
theorem isFlying_copy (h : ∀ t ∈ p.tasks, t.item.id ≠ id) {c : Copy}
    (hc : (p.lane timing id).copy = some c) : c.isFlying = false := by
  rcases List.mem_append.1 (List.mem_of_head? hc) with hmem | hmem
  · obtain ⟨t, -, hcopy⟩ := List.mem_filterMap.1 hmem
    exact Tick.isFlying_copy? hcopy
  · obtain ⟨t, ht, hcopy⟩ := List.mem_filterMap.1 hmem
    rw [Task.copy?, if_neg (h t ht)] at hcopy
    cases hcopy

theorem beside_eq_nil (h : p.Sound) {c : Option Copy} {l : List Copy}
    (hcopies : p.copies timing id = c.toList ++ l) (hc : c.isSome = true) : l = [] := by
  have hone := length_copies_le h timing id
  obtain ⟨copy, rfl⟩ := Option.isSome_iff_exists.1 hc
  rw [hcopies, List.length_append, Option.toList_some, List.length_singleton] at hone
  exact List.length_eq_zero_iff.1 (by omega)

theorem copies_eq_nil (h : p.Sound) (hfree : p.shared.claims.holds id = false) :
    p.copies timing id = [] := by
  have hticks := length_tickCopies_le timing id p.ticks
  have htasks := length_taskCopies_le h.keyed.tasks id
  have hmem : id ∉ p.guards := by
    intro hmem
    rw [(h.accounted.holds_iff id).2 hmem] at hfree
    cases hfree
  have hnone := List.count_eq_zero_of_not_mem hmem
  rw [guards, List.count_append] at hnone
  refine List.length_eq_zero_iff.1 ?_
  rw [copies, List.length_append]
  omega

/-- A step of a dispatch in its own lane leaves all other lanes as they are. -/
theorem lane_advance (h : p.Sound) {t : Task} (ht : p.tasks[n]? = some t)
    {r : Task × List Milestone} {shared : Shared (World MemoryStore)}
    (hsound : (p.advance n r shared).Sound) (hfollows : t.Follows r.1)
    (hsubject : ∀ m ∈ r.2, m.subject = t.item.id)
    (hstopping : shared.stopping = p.shared.stopping)
    (hothers : ∀ id, t.item.id ≠ id → shared.world.item? id = p.shared.world.item? id)
    (hstep : Lane.Step
      ⟨p.shared.world.item? t.item.id, some (.flying t.item t.flight), p.shared.stopping⟩ r.2
      ⟨shared.world.item? t.item.id, some (.flying t.item r.1.flight), p.shared.stopping⟩) :
    Lane.Step (p.lane timing id) (Milestone.about id r.2)
      ((p.advance n r shared).lane timing id) := by
  have hbefore := copies_eq_of_task timing id h ht
  have hafter : (p.advance n r shared).copies timing id =
      (r.1.copy? id).toList ++ p.copiesBesideTask timing id n :=
    copies_eq_of_perm hsound (filterMap_perm_set_right _ _ ht r.1)
  rw [lane, lane, hbefore, hafter]
  simp only [advance, hstopping, Task.copy?, hfollows.item]
  by_cases hid : t.item.id = id
  · -- The dispatch has the only copy, so the step in its own lane is the step here.
    have hcopy : (t.copy? id).isSome = true := by rw [Task.copy?, if_pos hid, Option.isSome_some]
    subst hid
    rw [if_pos rfl, if_pos rfl, beside_eq_nil h hbefore hcopy, Milestone.about_eq_self hsubject]
    exact hstep
  · rw [if_neg hid, if_neg hid, Milestone.about_eq_nil hsubject hid, hothers id hid]
    exact .same _

theorem lane_stepTick (h : p.Sound) {t : Tick} (ht : p.ticks[n]? = some t)
    (hsound : (p.act timing (.stepTick n)).Sound) :
    Lane.Step (p.lane timing id) (Milestone.about id (t.milestones timing p.shared))
      ((p.act timing (.stepTick n)).lane timing id) := by
  have hbefore := copies_eq_of_tick timing id h ht
  have hafter : (p.act timing (.stepTick n)).copies timing id =
      ((t.step timing p.shared).1.copy? timing id).toList ++
        ((Tick.launchedCopy? id (t.step timing p.shared).2.2).toList ++
          p.copiesBesideTick timing id n) := by
    refine copies_eq_of_perm hsound ?_
    simp only [copies, act, ht]
    exact filterMap_perm_set_left _ _ ht _ _
  have hstep := Tick.lane_step (s := p.shared) (o := (p.copiesBesideTick timing id n).head?)
    timing id (h.keyed.ticks t (List.mem_of_getElem? ht)) h.afterItems ?_ ?_
  · rw [lane, lane, hbefore, hafter]
    simp only [List.head?_append, Option.head?_toList, act, ht, Tick.stopping_step]
    exact hstep
  · intro hguard
    rw [beside_eq_nil h hbefore (Tick.isSome_copy? hguard)]
    rfl
  · -- What is not claimed has no copy at all, so none beside the tick.
    intro hfree
    rw [copies_eq_nil h hfree] at hbefore
    rw [(List.append_eq_nil_iff.1 hbefore.symm).2]
    rfl

theorem lane_dropTick (h : p.Sound) {t : Tick} (ht : p.ticks[n]? = some t) :
    Lane.Step (p.lane timing id) []
      (lane timing id { p with shared := t.release p.shared, ticks := p.ticks.eraseIdx n }) := by
  have hbefore := copies_eq_of_tick timing id h ht
  have hafter : copies timing id
      { p with shared := t.release p.shared, ticks := p.ticks.eraseIdx n } =
        p.copiesBesideTick timing id n := rfl
  rw [lane, lane, hbefore, hafter]
  simp only [Tick.world_release, Tick.stopping_release]
  cases hcopy : t.copy? timing id with
  | none => exact .same _
  | some c =>
      rw [hcopy] at hbefore
      rw [beside_eq_nil h hbefore rfl]
      exact .giveUp _ _ (Tick.isFlying_copy? hcopy)

theorem lane_dropTask (h : p.Sound) {t : Task} (ht : p.tasks[n]? = some t)
    (past : List Milestone) :
    Lane.Step (p.lane timing id) (Milestone.about id [.left t.item.id])
      (lane timing id
        { p with shared := t.release p.shared, tasks := p.tasks.eraseIdx n, past }) := by
  have hbefore := copies_eq_of_task timing id h ht
  have hafter : copies timing id
      { p with shared := t.release p.shared, tasks := p.tasks.eraseIdx n, past } =
        p.copiesBesideTask timing id n := rfl
  rw [lane, lane, hbefore, hafter]
  simp only [Task.world_release, Task.stopping_release]
  by_cases hid : t.item.id = id
  · have hcopy : t.copy? id = some (.flying t.item t.flight) := by rw [Task.copy?, if_pos hid]
    rw [hcopy] at hbefore ⊢
    rw [beside_eq_nil h hbefore rfl, Milestone.about_eq_self (by simpa using hid)]
    exact .leave _ t.item t.flight _
  · have hcopy : t.copy? id = none := by rw [Task.copy?, if_neg hid]
    rw [hcopy, Milestone.about_eq_nil (by simp) hid]
    exact .same _

theorem lane_act (timing : Timing) (h : p.Sound) {a : Action (World MemoryStore)}
    (ha : a.Harmless) (id : Uuid) :
    ∃ ms, (p.act timing a).past = p.past ++ ms ∧
      Lane.Step (p.lane timing id) (Milestone.about id ms) ((p.act timing a).lane timing id) := by
  have hsound : (p.act timing a).Sound := sound_act timing h ha
  have hsame : ∃ ms, p.past = p.past ++ ms ∧
      Lane.Step (p.lane timing id) (Milestone.about id ms) (p.lane timing id) :=
    ⟨[], (List.append_nil _).symm, .same _⟩
  cases a with
  | startTick now =>
      have hcopies : (p.act timing (.startTick now)).copies timing id = p.copies timing id := by
        have hnone := Tick.copy?_eq_none timing id
          (Tick.guard?_start timing now p.shared.stopping)
        simp only [copies, act, List.filterMap_append, List.filterMap_cons, hnone,
          List.filterMap_nil, List.append_nil]
      refine ⟨[], (List.append_nil _).symm, ?_⟩
      rw [lane, lane, hcopies]
      exact .same _
  | stepTick n =>
      cases ht : p.ticks[n]? with
      | none =>
          simp only [act, ht]
          exact hsame
      | some t =>
          refine ⟨t.milestones timing p.shared, ?_, lane_stepTick h ht hsound⟩
          simp only [act, ht]
  | dropTick n =>
      cases ht : p.ticks[n]? with
      | none =>
          simp only [act, ht]
          exact hsame
      | some t =>
          simp only [act, ht]
          refine ⟨[], (List.append_nil _).symm, ?_⟩
          exact lane_dropTick h ht
  | beginCheck n program now =>
      cases ht : p.tasks[n]? with
      | none =>
          simp only [act, ht]
          exact hsame
      | some t =>
          have hclaimed : t.claimed = true := by
            rw [Task.claimed, h.keyed.tasks t (List.mem_of_getElem? ht), Option.isSome_some]
          rw [act_beginCheck ht] at hsound ⊢
          exact ⟨_, rfl, lane_advance h ht hsound (Task.follows_beginCheck t _ _ _ _)
            (Task.subject_beginCheck t _ _ _ _) rfl (fun _ _ => rfl)
            (Task.lane_beginCheck hclaimed _ _ _ _ _)⟩
  | endCheck n waits now =>
      cases ht : p.tasks[n]? with
      | none =>
          simp only [act, ht]
          exact hsame
      | some t =>
          rw [act_endCheck ht] at hsound ⊢
          exact ⟨_, rfl, lane_advance h ht hsound (Task.follows_endCheck t _ _)
            (Task.subject_endCheck t _ _) rfl (fun _ _ => rfl) (Task.lane_endCheck t _ _ _ _)⟩
  | effect n now =>
      cases ht : p.tasks[n]? with
      | none =>
          simp only [act, ht]
          exact hsame
      | some t =>
          have hown := h.own t (List.mem_of_getElem? ht)
          rw [act_effect ht] at hsound ⊢
          exact ⟨_, rfl, lane_advance h ht hsound (Task.follows_recordStep t now p.shared)
            (Task.subject_milestones hown now p.shared) (Task.stopping_recordStep t now p.shared)
            (fun _ hid => Task.item?_recordStep hown now p.shared hid)
            (Task.lane_recordStep hown now p.shared)⟩
  | dropTask n =>
      cases ht : p.tasks[n]? with
      | none =>
          simp only [act, ht]
          exact hsame
      | some t =>
          simp only [act, ht]
          exact ⟨_, rfl, lane_dropTask h ht _⟩
  | startRetest id => exact hsame
  | startRetestAll => exact hsame
  | stepRetest n now =>
      cases hr : p.retests[n]? with
      | none =>
          simp only [act, hr]
          exact hsame
      | some r =>
          simp only [act, hr]
          exact ⟨_, rfl, RetestStage.lane_step now p.shared.world r h.afterItems id _ _⟩
  | shutDown => exact ⟨[], (List.append_nil _).symm, .stop _ _ _⟩
  | outside change =>
      refine ⟨[], (List.append_nil _).symm, ?_⟩
      simp only [act, lane, (ha _).item?]
      exact .same _

theorem sound_run (h : p.Sound) {as : List (Action (World MemoryStore))}
    (has : ∀ a ∈ as, a.Harmless) : (p.run timing as).Sound := by
  induction as generalizing p with
  | nil => exact h
  | cons a as ih =>
      exact ih (sound_act timing h (has a List.mem_cons_self))
        fun b hb => has b (List.mem_cons_of_mem a hb)

theorem lane_run (timing : Timing) (h : p.Sound) {as : List (Action (World MemoryStore))}
    (has : ∀ a ∈ as, a.Harmless) (id : Uuid) :
    ∃ ms, (p.run timing as).past = p.past ++ ms ∧
      Lane.Run (p.lane timing id) (Milestone.about id ms) ((p.run timing as).lane timing id) := by
  induction as generalizing p with
  | nil => exact ⟨[], (List.append_nil _).symm, .nil _⟩
  | cons a as ih =>
      have ha := has a List.mem_cons_self
      obtain ⟨ms, hms, hstep⟩ := lane_act timing h ha id
      obtain ⟨ns, hns, hrun⟩ := ih (sound_act timing h ha)
        fun b hb => has b (List.mem_cons_of_mem a hb)
      refine ⟨ms ++ ns, ?_, ?_⟩
      · rw [run_cons, hns, hms, List.append_assoc]
      · rw [Milestone.about_append]
        exact .cons hstep hrun

end Polling

end Vigil
