import Vigil.Proofs.Polling.Clock
import Vigil.Proofs.Polling.Projection
import Vigil.Proofs.Scheduler.Undisturbed

/-!
# Ticks on a store that fails at some calls

A tick makes each call of the store at most once for an item, so what fails is a matter of
which calls `World.answers`. A candidate that cannot be loaded is given back and counts for
nothing, and one whose times cannot be written is launched all the same: the loop goes on
as if nothing had happened. Its invariant, `Tick.Endured`, says so, and two ticks that keep
it can be compared: errors only shrink what a tick dispatches (`Tick.Shrinks`).
-/

namespace Vigil

namespace World

variable {α : Type} {w : World MemoryStore}

/-- Whether a call of the store is answered. -/
def answers (w : World MemoryStore) (c : StoreCall) : Bool :=
  !w.store.fails c && !w.store.inner.switchedOff

theorem call_of_answers {c : StoreCall} (h : w.answers c = true)
    {f : MemoryStore → Except StoreError (α × MemoryStore)} {a : α} {t : MemoryStore}
    (hf : f w.store.inner = .ok (a, t)) :
    call c (MemoryStore.whenOn f) w = (.ok a, w.withInner t) := by
  obtain ⟨hfails, hon⟩ : w.store.fails c = false ∧ w.store.inner.switchedOff = false := by
    simpa [answers] using h
  rw [call_of_not_fails hfails, MemoryStore.whenOn_of_ok hon hf]

theorem call_of_not_answers {c : StoreCall} (h : w.answers c = false)
    (f : MemoryStore → Except StoreError (α × MemoryStore)) :
    ∃ e, call c (MemoryStore.whenOn f) w = (.error e, w) := by
  cases hfails : w.store.fails c with
  | true => exact ⟨_, call_of_fails hfails⟩
  | false =>
      have hoff : w.store.inner.switchedOff = true := by
        simpa [answers, hfails] using h
      rw [call_of_not_fails hfails, MemoryStore.whenOn_of_off hoff]
      exact ⟨_, rfl⟩

theorem get?_of_answers {id : Uuid} (h : w.answers (.get id) = true) :
    (Store.get? id : Access (World MemoryStore) _) w = (.ok (w.item? id), w) :=
  call_of_answers h rfl

theorem get?_of_not_answers {id : Uuid} (h : w.answers (.get id) = false) :
    ∃ e, (Store.get? id : Access (World MemoryStore) _) w = (.error e, w) :=
  call_of_not_answers h _

theorem items_of_answers (hhooks : w.store.afterItems = []) (h : w.answers .items = true) :
    (Store.items : Access (World MemoryStore) _) w = (.ok w.store.inner.itemList, w) :=
  (items_eq hhooks).trans (call_of_answers h rfl)

theorem items_of_not_answers (hhooks : w.store.afterItems = []) (h : w.answers .items = false) :
    ∃ e, (Store.items : Access (World MemoryStore) _) w = (.error e, w) := by
  rw [items_eq hhooks]
  exact call_of_not_answers h _

theorem Healthy.answers (h : w.Healthy) (c : StoreCall) : w.answers c = true := by
  rw [World.answers, h.fails, h.switchedOff]
  rfl

/-- The world after the times of an item were to be written. -/
def rescheduled (w : World MemoryStore) (new : Item) : World MemoryStore :=
  if w.answers (.reschedule new.id) then w.withInner (w.store.inner.put new) else w

theorem answers_rescheduled (w : World MemoryStore) (new : Item) :
    (w.rescheduled new).answers = w.answers := by
  unfold rescheduled
  split <;> rfl

theorem item?_rescheduled_self (w : World MemoryStore) (new : Item) :
    (w.rescheduled new).item? new.id =
      if w.answers (.reschedule new.id) then some new else w.item? new.id := by
  unfold rescheduled
  by_cases hanswers : w.answers (.reschedule new.id) = true
  · rw [if_pos hanswers, if_pos hanswers]
    exact MemoryStore.getElem?_put_of_eq rfl _
  · rw [if_neg hanswers, if_neg hanswers]

theorem item?_rescheduled_of_ne {new : Item} {id : Uuid} (h : new.id ≠ id)
    (w : World MemoryStore) : (w.rescheduled new).item? id = w.item? id := by
  unfold rescheduled
  split
  · exact MemoryStore.getElem?_put_of_ne h _
  · rfl

/-- Writing the times of an item that is stored as it was loaded stores it as it is launched,
or does nothing. -/
theorem snd_reschedule_launched {c new : Item} {now : Time} (hstored : w.item? c.id = some c)
    (hnew : c.launchedAt? now = some new) :
    ((Store.reschedule new.id new.progress.nextDue new.progress.lastRun :
      Access (World MemoryStore) _) w).2 = w.rescheduled new := by
  change (call (.reschedule new.id) (MemoryStore.modifyItem new.id _) w).2 = _
  unfold rescheduled MemoryStore.modifyItem
  cases hanswers : w.answers (.reschedule new.id) with
  | true =>
      have hlook : w.store.inner.itemMap[new.id]? = some c := by
        rw [Item.launchedAt?_id hnew]
        exact hstored
      rw [call_of_answers hanswers (by rw [hlook])]
      obtain ⟨due, -, rfl⟩ := Option.map_eq_some_iff.1 hnew
      rfl
  | false =>
      obtain ⟨e, he⟩ := call_of_not_answers hanswers _
      rw [he]
      rfl

end World

namespace Tick

variable {timing : Timing} {now horizon : Time} {before s : Shared (World MemoryStore)}
variable {taken skipped rest : List Item} {t : Tick} {launches : List Launch} {c : Item}

/-! ### The loop over the candidates -/

/-- Whether a tick that comes to a candidate launches it: it is free and can be loaded. -/
def reaches (s : Shared (World MemoryStore)) (c : Item) : Bool :=
  isFree s.claims c && s.world.answers (.get c.id)

/-- What has become of the candidates so far in a tick at `now`, on a store that may fail. -/
structure Endured (timing : Timing) (now : Time) (before : Shared (World MemoryStore))
    (taken skipped : List Item) (t : Tick) (s : Shared (World MemoryStore))
    (launches : List Launch) : Prop where
  now_eq : t.now = now
  report : t.report = ⟨taken.map (·.id), skipped.map (·.id)⟩
  claims : ∀ id, s.claims.holds id = true ↔
    before.claims.holds id = true ∨ id ∈ taken.map (·.id)
  answers : s.world.answers = before.world.answers
  /-- The times are written unless that fails. -/
  stored : ∀ c ∈ taken, ∃ i, c.launchedAt? now = some i ∧
    s.world.item? c.id = some (if before.world.answers (.reschedule c.id) then i else c)
  others : ∀ id, id ∉ taken.map (·.id) → s.world.item? id = before.world.item? id
  length_launches : launches.length = taken.length
  launches : ∀ (k : Nat) (c : Item), taken[k]? = some c → ∃ i, c.launchedAt? now = some i ∧
    launches[k]? = some ⟨c.id, i, ⟨timing.stagger.nanos * (k % UInt32.size)⟩⟩

namespace Endured

theorem goTo (h : Endured timing now before taken skipped t s launches) (stage : Stage) :
    Endured timing now before taken skipped (t.goTo stage) s launches :=
  ⟨h.now_eq, h.report, h.claims, h.answers, h.stored, h.others, h.length_launches, h.launches⟩

theorem skip (h : Endured timing now before taken skipped t s launches) :
    Endured timing now before taken (skipped ++ [c])
      { t with
        stage := .claim rest
        report := { t.report with skipped := t.report.skipped ++ [c.id] } } s launches where
  now_eq := h.now_eq
  report := by rw [h.report, List.map_append, List.map_singleton]
  claims := h.claims
  answers := h.answers
  stored := h.stored
  others := h.others
  length_launches := h.length_launches
  launches := h.launches

/-- A claim that is given back is as if it had not been made. -/
theorem giveBack (h : Endured timing now before taken skipped t s launches) {claims : Claims}
    (hclaim : s.claims.claim? c.id = some claims) :
    Endured timing now before taken skipped t
      { s with claims := claims.release c.id } launches where
  now_eq := h.now_eq
  report := h.report
  claims := by
    intro id
    rw [← h.claims, Claims.holds_release, Claims.holds_of_claim? hclaim]
    by_cases hid : c.id = id
    · have hfree : s.claims.holds c.id = false := by
        rw [Bool.eq_false_iff, Ne, ← Claims.claim?_eq_none_iff, hclaim]
        exact Option.some_ne_none claims
      simp [← hid, hfree]
    · simp [hid]
  answers := h.answers
  stored := h.stored
  others := h.others
  length_launches := h.length_launches
  launches := h.launches

theorem take (h : Endured timing now before taken skipped t s launches)
    (hfresh : c.id ∉ taken.map (·.id)) (hstored : before.world.item? c.id = some c)
    {claims : Claims} (hclaim : s.claims.claim? c.id = some claims)
    {new : Item} (hnew : c.launchedAt? now = some new) {delay : Duration}
    (hdelay : t.delay? timing = some delay) :
    Endured timing now before (taken ++ [c]) skipped
      { t with
        stage := .claim rest
        report := { t.report with dispatched := t.report.dispatched ++ [c.id] } }
      { s with world := s.world.rescheduled new, claims } (launches ++ [⟨c.id, new, delay⟩]) where
  now_eq := h.now_eq
  report := by rw [h.report, List.map_append, List.map_singleton]
  claims := holds_append h.claims hclaim
  answers := (World.answers_rescheduled _ _).trans h.answers
  stored := by
    intro d hd
    rcases List.mem_append.1 hd with hd | hd
    · obtain ⟨i, hi, hitem⟩ := h.stored d hd
      have hne : new.id ≠ d.id := by
        rw [Item.launchedAt?_id hnew]
        intro heq
        exact hfresh (heq ▸ List.mem_map_of_mem hd)
      exact ⟨i, hi, (World.item?_rescheduled_of_ne hne _).trans hitem⟩
    · obtain rfl := List.mem_singleton.1 hd
      have hitem := World.item?_rescheduled_self s.world new
      rw [Item.launchedAt?_id hnew, h.answers, h.others d.id hfresh, hstored] at hitem
      exact ⟨new, hnew, hitem.trans (apply_ite some _ _ _).symm⟩
  others := by
    intro id hid
    rw [List.map_append, List.mem_append, not_or, List.map_singleton, List.mem_singleton] at hid
    have hne : new.id ≠ id := by
      rw [Item.launchedAt?_id hnew]
      exact Ne.symm hid.2
    exact (World.item?_rescheduled_of_ne hne _).trans (h.others id hid.1)
  length_launches := by
    rw [List.length_append, List.length_append, h.length_launches, List.length_singleton,
      List.length_singleton]
  launches := launched_append h.length_launches h.launches hnew <| by
    rw [← Duration.eq_of_times? hdelay, h.report, List.length_map]

end Endured

/-- The loop over the candidates skips those that are claimed and launches all others that can
be loaded. -/
theorem steps_endure {fuel : Nat} (h : Endured timing now before taken skipped t s launches)
    (hstage : t.stage = .claim rest) (hfuel : stepBound (.claim rest) ≤ fuel)
    (hnodup : ((taken ++ rest).map (·.id)).Nodup)
    (hstored : ∀ c ∈ rest, before.world.item? c.id = some c)
    (hdue : ∀ c ∈ rest, c.isDue t.horizon = true)
    (hrearm : ∀ c ∈ rest, isFree before.claims c = true → (c.launchedAt? now).isSome = true)
    (hdelay : ∀ k < taken.length + (rest.filter (isFree before.claims)).length,
      (timing.stagger.times? (k % UInt32.size)).isSome = true) :
    ∃ t' s' launches', steps timing fuel t s launches = (t', s', launches') ∧ t'.stage = .done ∧
      Endured timing now before (taken ++ rest.filter (reaches before))
        (skipped ++ rest.filter fun c => !isFree before.claims c) t' s' launches' := by
  -- Induction on the candidates that are left; `Endured` is what goes from one to the next.
  induction rest generalizing taken skipped t s launches fuel with
  | nil =>
      obtain ⟨fuel, rfl⟩ : ∃ f, fuel = f + 1 := Nat.exists_eq_add_of_le' hfuel
      refine ⟨_, _, _, steps_of_nil hstage fuel launches, rfl, ?_⟩
      rw [List.filter_nil, List.filter_nil, List.append_nil, List.append_nil]
      exact h.goTo .done
  | cons c rest ih =>
      obtain ⟨fuel, rfl⟩ : ∃ f, fuel = f + 4 := by
        refine Nat.exists_eq_add_of_le' (Nat.le_trans ?_ hfuel)
        simp only [stepBound, List.length_cons]
        omega
      have hleft : stepBound (.claim rest) ≤ fuel := by
        simp only [stepBound, List.length_cons] at hfuel ⊢
        omega
      have hrest {d : Item} (hd : d ∈ rest) : d ∈ c :: rest := List.mem_cons_of_mem c hd
      have hdrop : ((taken ++ rest).map (·.id)).Nodup :=
        hnodup.sublist (((List.sublist_cons_self c rest).append_left taken).map _)
      have hshorter : ∀ k < taken.length + (rest.filter (isFree before.claims)).length,
          (timing.stagger.times? (k % UInt32.size)).isSome = true := by
        intro k hk
        have hle := ((List.sublist_cons_self c rest).filter (isFree before.claims)).length_le
        exact hdelay k (by omega)
      have hfresh := not_mem_of_nodup_append hnodup
      have hsame := isFree_of_not_mem h.claims hfresh
      cases hfree : isFree before.claims c with
      | false =>
          have hpass : reaches before c = false := by rw [reaches, hfree, Bool.false_and]
          rw [steps_skip hstage (holds_of_isFree_eq_false (hsame.trans hfree)) (fuel + 3),
            List.filter_cons_of_neg (by simp [hpass]), List.filter_cons_of_pos (by simp [hfree]),
            List.append_cons skipped]
          exact ih h.skip rfl (Nat.le_trans hleft (Nat.le_add_right _ _)) hdrop
            (fun d hd => hstored d (hrest hd)) (fun d hd => hdue d (hrest hd))
            (fun d hd => hrearm d (hrest hd)) hshorter
      | true =>
          obtain ⟨claims, hclaim⟩ := exists_claim?_of_isFree (hsame.trans hfree)
          have hreaches : reaches before c = before.world.answers (.get c.id) := by
            rw [reaches, hfree, Bool.true_and]
          rw [List.filter_cons_of_neg (p := fun c => !isFree before.claims c) (by simp [hfree])]
          cases hanswers : before.world.answers (.get c.id) with
          | false =>
              obtain ⟨e, hload⟩ := World.get?_of_not_answers (h.answers ▸ hanswers)
              rw [steps_giveBack hstage hclaim hload (fuel + 2),
                List.filter_cons_of_neg (by simp [hreaches, hanswers])]
              exact ih ((h.giveBack hclaim).goTo _) rfl
                (Nat.le_trans hleft (Nat.le_add_right _ _)) hdrop
                (fun d hd => hstored d (hrest hd)) (fun d hd => hdue d (hrest hd))
                (fun d hd => hrearm d (hrest hd)) hshorter
          | true =>
              have hitem := hstored c List.mem_cons_self
              have hkept := (h.others c.id hfresh).trans hitem
              have hload := World.get?_of_answers (h.answers ▸ hanswers)
              rw [hkept] at hload
              obtain ⟨new, hnew⟩ := Option.isSome_iff_exists.1 (hrearm c List.mem_cons_self hfree)
              obtain ⟨delay, htimes⟩ := exists_delay? (congrArg _ h.report) hfree hdelay
              rw [steps_launch hstage hclaim hload (hdue c List.mem_cons_self) (h.now_eq ▸ hnew)
                (World.snd_reschedule_launched hkept hnew) htimes fuel,
                List.filter_cons_of_pos (hreaches.trans hanswers), List.append_cons taken]
              refine ih (h.take hfresh hitem hclaim hnew htimes) rfl hleft ?_
                (fun d hd => hstored d (hrest hd)) (fun d hd => hdue d (hrest hd))
                (fun d hd => hrearm d (hrest hd)) (length_take hfree ▸ hdelay)
              rw [List.append_assoc]
              exact hnodup

theorem endured_listed (timing : Timing) (now horizon : Time) (cs : List Item)
    (s : Shared (World MemoryStore)) :
    Endured timing now s [] [] (listed now horizon cs) s [] := by
  constructor <;> simp [listed, emptyReport]

end Tick

/-! ### Dispatches that have not written yet -/

/-- Whether an action goes on with a dispatch. -/
def Action.isOfDispatch {σ : Type} : Action σ → Bool
  | .beginCheck _ _ _ => true
  | .endCheck _ _ _ => true
  | .effect _ _ => true
  | .dropTask _ => true
  | _ => false

namespace Polling

variable {timing : Timing} {p : Polling (World MemoryStore)}

/-- An item is as it is stored, unless a dispatch has written it. -/
def StaysUnless (before : Option Item) (id : Uuid) (p : Polling (World MemoryStore)) : Prop :=
  p.shared.world.item? id = before ∨ ∃ new, new.id = id ∧ .persisted new ∈ p.past

theorem staysUnless_act (timing : Timing) {before : Option Item} {id : Uuid}
    (h : p.StaysUnless before id) {a : Action (World MemoryStore)}
    (ha : a.isOfDispatch = true) : (p.act timing a).StaysUnless before id := by
  obtain ⟨ms, hms⟩ := exists_past_run timing p [a]
  rcases h with hsame | ⟨new, hid, hpast⟩
  · cases a with
    | beginCheck n program now =>
        refine .inl ?_
        simp only [act]
        split <;> exact hsame
    | endCheck n waits now =>
        refine .inl ?_
        simp only [act]
        split <;> exact hsame
    | dropTask n =>
        refine .inl ?_
        simp only [act]
        split
        · exact hsame
        · next t _ => exact (congrArg (World.item? · id) (t.world_release p.shared)).trans hsame
    | effect n now =>
        cases ht : p.tasks[n]? with
        | none => exact .inl (by simp only [act, ht, hsame])
        | some t =>
            rw [act_effect ht]
            rcases t.recordStep_cases now p.shared with ⟨hitems, -, -⟩ |
              ⟨new, rest, -, -, -, ⟨hwrites, hpersisted⟩ | ⟨hworld, -⟩⟩
            · exact .inl ((hitems.item? id).trans hsame)
            · by_cases hid : new.id = id
              · refine .inr ⟨new, hid, List.mem_append_right _ ?_⟩
                rw [hpersisted]
                exact List.mem_singleton_self _
              · exact .inl ((hwrites.others id (Ne.symm hid)).trans hsame)
            · exact .inl ((congrArg (World.item? · id) hworld).trans hsame)
    | _ => cases ha
  · exact .inr ⟨new, hid, hms ▸ List.mem_append_left ms hpast⟩

/-- Whatever the dispatches do, an item is as it was stored until one of them writes it. -/
theorem staysUnless_run (timing : Timing) {before : Option Item} {id : Uuid}
    (h : p.StaysUnless before id) {as : List (Action (World MemoryStore))}
    (has : ∀ a ∈ as, a.isOfDispatch = true) : (p.run timing as).StaysUnless before id := by
  induction as generalizing p with
  | nil => exact h
  | cons a as ih =>
      exact ih (staysUnless_act timing h (has a List.mem_cons_self))
        fun b hb => has b (List.mem_cons_of_mem a hb)

end Polling

/-! ### Whole ticks -/

/-- The same, with a store that does not fail. -/
def Shared.heal (s : Shared (World MemoryStore)) : Shared (World MemoryStore) :=
  { s with world := s.world.heal }

theorem Shared.answers_heal (s : Shared (World MemoryStore)) (c : StoreCall) :
    s.heal.world.answers c = true := rfl

namespace Tick

variable {timing : Timing} {now horizon : Time} {s : Shared (World MemoryStore)}

/-- Errors of the store have only shrunk a tick: from `s` on it has come to `r`, and would have
come to `q` if nothing had failed. -/
structure Shrinks (timing : Timing) (now : Time) (s : Shared (World MemoryStore))
    (r q : Tick × Shared (World MemoryStore) × List Launch) : Prop where
  done : r.1.stage = .done
  /-- Nothing is reported if the items cannot be listed. -/
  unlisted : s.world.answers .items = false → r.1.report = emptyReport
  /-- Otherwise the items that cannot be loaded are missing from the report. -/
  listed : s.world.answers .items = true → r.1.report =
    ⟨q.1.report.dispatched.filter fun id => s.world.answers (.get id), q.1.report.skipped⟩
  sublist : r.1.report.dispatched.Sublist q.1.report.dispatched
  claims : ∀ id, r.2.1.claims.holds id = true ↔
    s.claims.holds id = true ∨ id ∈ r.1.report.dispatched
  kept : ∀ id, id ∉ r.1.report.dispatched → r.2.1.world.item? id = s.world.item? id
  written : ∀ id ∈ r.1.report.dispatched, s.world.answers (.reschedule id) = true →
    r.2.1.world.item? id = q.2.1.world.item? id
  /-- An item that is dispatched without its times being written stays as it is stored, until
  its dispatch writes it. -/
  unwritten : ∀ id ∈ r.1.report.dispatched, s.world.answers (.reschedule id) = false →
    ∀ (others : List Task) (as : List (Action (World MemoryStore))),
      (∀ a ∈ as, a.isOfDispatch = true) →
        ((⟨r.2.1, [], others ++ r.2.2.map Task.ofLaunch, [], []⟩ :
          Polling (World MemoryStore)).run timing as).StaysUnless (s.world.item? id) id
  length_launches : r.2.2.length = r.1.report.dispatched.length
  launched : ∀ (k : Nat) (id : Uuid), r.1.report.dispatched[k]? = some id →
    ∃ i new, s.world.item? id = some i ∧ i.launchedAt? now = some new ∧
      r.2.2[k]? = some ⟨id, new, ⟨timing.stagger.nanos * (k % UInt32.size)⟩⟩
  delayed : ∀ (k : Nat) (l : Launch), r.2.2[k]? = some l → k < UInt32.size →
    l.delay.nanos = k * timing.stagger.nanos

theorem reaches_heal (s : Shared (World MemoryStore)) (c : Item) :
    reaches s.heal c = isFree s.claims c := by
  rw [reaches, s.answers_heal, Bool.and_true]
  rfl

/-- What a tick reports on a store that fails at some calls, next to what it reports on one
that does not. -/
theorem map_filter_reaches (s : Shared (World MemoryStore)) (cs : List Item) :
    (cs.filter (reaches s)).map (·.id) =
      ((cs.filter (reaches s.heal)).map (·.id)).filter fun id => s.world.answers (.get id) := by
  rw [List.filter_map, List.filter_filter]
  refine congrArg (List.map _) (List.filter_congr fun c _ => ?_)
  rw [reaches, reaches_heal, Function.comp_apply, Bool.and_comm]

section

variable {t u : Tick} {after healed : Shared (World MemoryStore)} {launches more : List Launch}

/-- A tick that has launched nothing is no more than any other. -/
theorem shrinks_of_idle {q : Tick × Shared (World MemoryStore) × List Launch}
    (hdone : t.stage = .done) (hreport : t.report = emptyReport)
    (hlisted : s.world.answers .items = true → q.1.report = emptyReport) :
    Shrinks timing now s (t, s, []) q where
  done := hdone
  unlisted _ := hreport
  listed h := by rw [hlisted h, hreport]; rfl
  sublist := by rw [hreport]; exact List.nil_sublist _
  claims id := by rw [hreport]; simp [emptyReport]
  kept _ _ := rfl
  written id hid := by rw [hreport] at hid; cases hid
  unwritten id hid := by rw [hreport] at hid; cases hid
  length_launches := by rw [hreport]; rfl
  launched k id hid := by rw [hreport] at hid; cases hid
  delayed k l hl := by cases hl

/-- A tick that has gone through its candidates, next to one that nothing failed for. -/
theorem shrinks_of_endured {cs skipped : List Item} (hdone : t.stage = .done)
    (hlist : s.world.answers .items = true) (hstored : ∀ c ∈ cs, s.world.item? c.id = some c)
    (h : Endured timing now s (cs.filter (reaches s)) skipped t after launches)
    (hheal : Endured timing now s.heal (cs.filter (reaches s.heal)) skipped u healed more) :
    Shrinks timing now s (t, after, launches) (u, healed, more) := by
  have hmem {id : Uuid} (hid : id ∈ t.report.dispatched) :
      ∃ c ∈ cs.filter (reaches s), c.id = id := by
    rw [h.report] at hid
    exact List.mem_map.1 hid
  have hlisted : t.report =
      ⟨u.report.dispatched.filter fun id => s.world.answers (.get id), u.report.skipped⟩ := by
    rw [h.report, hheal.report, map_filter_reaches]
  refine
    { done := hdone
      unlisted := fun hnot => absurd (hlist.symm.trans hnot) (by decide)
      listed := fun _ => hlisted
      sublist := by rw [hlisted]; exact List.filter_sublist
      claims := fun id => by rw [h.claims, h.report]
      kept := fun id hid => h.others id (by rwa [h.report] at hid)
      written := ?_
      unwritten := ?_
      length_launches := by rw [h.length_launches, h.report, List.length_map]
      launched := ?_
      delayed := fun k l hl hk => nanos_of_launched h.length_launches h.launches hl hk }
  · intro id hid hanswers
    obtain ⟨c, hc, rfl⟩ := hmem hid
    obtain ⟨hcandidate, hreaches⟩ := List.mem_filter.1 hc
    have hfree : reaches s.heal c = true :=
      (reaches_heal s c).trans (Bool.and_eq_true_iff.1 hreaches).1
    obtain ⟨i, hi, hitem⟩ := h.stored c hc
    obtain ⟨j, hj, hhealed⟩ := hheal.stored c (List.mem_filter.2 ⟨hcandidate, hfree⟩)
    rw [if_pos hanswers] at hitem
    rw [if_pos (s.answers_heal _)] at hhealed
    rw [hitem, hhealed, ← hi, ← hj]
  · intro id hid hanswers others as has
    obtain ⟨c, hc, rfl⟩ := hmem hid
    obtain ⟨i, -, hitem⟩ := h.stored c hc
    rw [hanswers, if_neg Bool.false_ne_true] at hitem
    refine Polling.staysUnless_run timing (.inl ?_) has
    exact hitem.trans (hstored c (List.mem_filter.1 hc).1).symm
  · intro k id hid
    rw [h.report, List.getElem?_map] at hid
    obtain ⟨c, hc, rfl⟩ := Option.map_eq_some_iff.1 hid
    obtain ⟨new, hnew, hlaunch⟩ := h.launches k c hc
    exact ⟨c, new, hstored c (List.mem_filter.1 (List.mem_of_getElem? hc)).1, hnew, hlaunch⟩

end

section

variable (hgo : s.stopping = false) (hhooks : s.world.store.afterItems = [])
  (hhorizon : timing.horizon? now = some horizon)
  (hrearm : ∀ c ∈ s.world.store.inner.itemList, c.isDue horizon = true →
    s.claims.holds c.id = false → (c.nextDueAfter? now).isSome = true)
  (hdelay : ∀ k < (s.world.store.inner.itemList.filter fun c =>
      isFree s.claims c && c.isDue horizon).length,
    (timing.stagger.times? (k % UInt32.size)).isSome = true)

include hgo hhooks hhorizon hrearm hdelay

/-- A tick that can list the items goes through its candidates to the end. -/
theorem endured_run (hlist : s.world.answers .items = true) :
    ∃ t after launches, run timing now s = (t, after, launches) ∧ t.stage = .done ∧
      Endured timing now s
        ((candidates horizon s.world.store.inner.itemList).filter (reaches s))
        ((candidates horizon s.world.store.inner.itemList).filter fun c => !isFree s.claims c)
        t after launches := by
  have hdue {c : Item} (hc : c ∈ candidates horizon s.world.store.inner.itemList) :=
    mem_candidates.1 hc
  have hrearmed : ∀ c ∈ candidates horizon s.world.store.inner.itemList,
      isFree s.claims c = true → (c.launchedAt? now).isSome = true := by
    intro c hc hfree
    rw [Item.isSome_launchedAt?]
    refine hrearm c (MemoryStore.mem_itemList.2 (hdue hc).1) (hdue hc).2 ?_
    simpa [isFree] using hfree
  have hlength :
      ((candidates horizon s.world.store.inner.itemList).filter (isFree s.claims)).length =
        (s.world.store.inner.itemList.filter fun c =>
          isFree s.claims c && c.isDue horizon).length := by
    rw [((candidates_perm horizon _).filter _).length_eq, List.filter_filter]
  rw [run_of_items hgo hhorizon (World.items_of_answers hhooks hlist)]
  exact steps_endure (endured_listed timing now horizon _ s) rfl (Nat.le_refl _)
    (nodup_candidates horizon _) (fun c hc => (hdue hc).1) (fun c hc => (hdue hc).2) hrearmed
    (by simpa [hlength] using hdelay)

end

namespace Sample

/-- Two items that are due: the first one cannot be loaded, and the times of the second one
cannot be written. -/
def faulty : Shared (World MemoryStore) where
  world :=
    { Sample.world with
      store :=
        { inner := (MemoryStore.empty.put Sample.item).put second
          fails := fun c => c == .get Sample.item.id || c == .reschedule second.id
          afterItems := [] } }
  claims := .empty
  stopping := false

end Sample

/-- Whatever calls of the store fail, a tick that nothing else comes between does no more than
it would if none failed, if the times and delays that it needs are in range. -/
theorem run_shrinks (hhooks : s.world.store.afterItems = [])
    (hhorizon : timing.horizon? now = some horizon)
    (hrearm : ∀ c ∈ s.world.store.inner.itemList, c.isDue horizon = true →
      s.claims.holds c.id = false → (c.nextDueAfter? now).isSome = true)
    (hdelay : ∀ k < (s.world.store.inner.itemList.filter fun c =>
        isFree s.claims c && c.isDue horizon).length,
      (timing.stagger.times? (k % UInt32.size)).isSome = true) :
    Shrinks timing now s (run timing now s) (run timing now s.heal) := by
  cases hgo : s.stopping with
  | true =>
      have hheal : run timing now s.heal = (⟨now, now, .done, emptyReport⟩, s.heal, []) :=
        run_of_stopping timing now hgo
      rw [run_of_stopping timing now hgo, hheal]
      exact shrinks_of_idle rfl rfl fun _ => rfl
  | false =>
      cases hlist : s.world.answers .items with
      | false =>
          obtain ⟨e, he⟩ := World.items_of_not_answers hhooks hlist
          rw [run_of_no_items hgo hhorizon he]
          exact shrinks_of_idle rfl rfl fun h => absurd (hlist.symm.trans h) (by decide)
      | true =>
          obtain ⟨t, after, launches, hrun, hdone, hendured⟩ :=
            endured_run hgo hhooks hhorizon hrearm hdelay hlist
          obtain ⟨u, healed, more, hrunHeal, -, hhealed⟩ :=
            endured_run (s := s.heal) hgo hhooks hhorizon hrearm hdelay rfl
          rw [hrun, hrunHeal]
          exact shrinks_of_endured hdone hlist (fun c hc => (mem_candidates.1 hc).1) hendured
            hhealed

theorem run_shrinks_sample :
    (run .standard .epoch Sample.faulty).1.report = ⟨[Sample.second.id], []⟩ ∧
      (run .standard .epoch Sample.faulty.heal).1.report =
        ⟨[Sample.item.id, Sample.second.id], []⟩ ∧
      Shrinks .standard .epoch Sample.faulty (run .standard .epoch Sample.faulty)
        (run .standard .epoch Sample.faulty.heal) := by
  have hhorizon : Timing.standard.horizon? .epoch = some Sample.horizon := rfl
  have hcandidates : candidates Sample.horizon Sample.faulty.world.store.inner.itemList =
      [Sample.item, Sample.second] :=
    List.mergeSort_of_pairwise (l := [Sample.item, Sample.second]) (by decide +kernel)
  have hhealed : candidates Sample.horizon Sample.faulty.heal.world.store.inner.itemList =
      [Sample.item, Sample.second] := hcandidates
  refine ⟨?_, ?_, run_shrinks rfl hhorizon (by decide +kernel) (by decide +kernel)⟩
  · rw [run_of_items rfl hhorizon (World.items_of_answers rfl rfl), hcandidates]
    decide +kernel
  · rw [run_of_items rfl hhorizon (World.items_of_answers rfl rfl), hhealed]
    decide +kernel

end Tick

end Vigil
