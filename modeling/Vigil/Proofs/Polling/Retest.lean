import Vigil.Proofs.Polling.Projection

/-!
# What becomes of a retest

A retest takes no claim, so it may come between a load of the item and what is written
from the copy that was loaded. It is kept exactly if no copy that was loaded before can
still be written: then nothing is written to the item before it is loaded again, and
the item stays as the retest has left it. Otherwise there is a run in which the older
copy is written over the retest.
-/

namespace Vigil

/-! ### Items after a retest -/

/-- The item is as a retest leaves it that was asked for at a time. -/
structure Item.Retested (asked : Time) (i : Item) : Prop where
  state : i.progress.state = .unknown
  readings : i.progress.readings = .empty
  /-- It is due since a second before. -/
  nextDue : asked.add? ⟨-1000000000⟩ = some i.progress.nextDue
  in_past : i.progress.nextDue < asked

theorem Item.retested_of_forRetest? {asked : Time} {loaded new old : Item}
    (h : loaded.forRetest? asked = some new) :
    Item.Retested asked { old with progress := new.progress } := by
  obtain ⟨due, hdue, rfl⟩ := Option.map_eq_some_iff.1 h
  exact ⟨rfl, rfl, hdue, Time.lt_of_secondBefore? hdue⟩

/-- Whether a copy that is worked on can still be written. -/
def Copy.mayWrite (stopping : Bool) : Copy → Bool
  | claimed => false
  | loaded _ => true
  | armed _ inRange => inRange && !stopping
  | flying _ .waiting => !stopping
  | flying _ (.checking _ _ _) => true
  | flying _ (.ending writes) => !writes.isEmpty

namespace Lane

/-- No copy that is worked on can still be written. -/
def Quiet (l : Lane) : Prop := ∀ c, l.copy = some c → c.mayWrite l.stopping = false

/-- A quiet lane stays quiet, and nothing is written in it, until the item is loaded. -/
theorem quiet_step {l m : Lane} {ms : List Milestone} (h : Quiet l) (hstep : Step l ms m) :
    (∃ item, ms = [.loaded item]) ∨
      (Quiet m ∧ ∀ e ∈ ms, e.isLoaded = false ∧ e.isWrite = false) := by
  cases hstep with
  | same => exact Or.inr ⟨h, by simp⟩
  | stop i c b =>
      refine Or.inr ⟨?_, by simp⟩
      rintro c' ⟨⟩
      have hc := h c' rfl
      cases c' with
      | claimed => rfl
      | loaded item => exact hc
      | armed item inRange => exact Bool.and_false _
      | flying item flight =>
          cases flight with
          | waiting => rfl
          | checking m p budget => exact hc
          | ending writes => exact hc
  | claim i b =>
      refine Or.inr ⟨?_, by simp⟩
      rintro c' ⟨⟩
      rfl
  | load b hload => exact Or.inl ⟨_, rfl⟩
  | giveUp i b hc =>
      refine Or.inr ⟨?_, by simp⟩
      rintro c' ⟨⟩
  | rearm old item b inRange => exact absurd (h _ rfl) (by simp [Copy.mayWrite])
  | pass i item b inRange => exact absurd (h _ rfl) (by simp [Copy.mayWrite])
  | launch i item b =>
      refine Or.inr ⟨?_, by simp [Milestone.isLoaded, Milestone.isWrite]⟩
      rintro c' ⟨⟩
      have hc := h _ rfl
      simpa [Copy.mayWrite] using hc
  | quit i item b =>
      refine Or.inr ⟨?_, by simp⟩
      rintro c' ⟨⟩
      rfl
  | unknown i item => exact absurd (h _ rfl) (by simp [Copy.mayWrite])
  | probe i item p budget => exact absurd (h _ rfl) (by simp [Copy.mayWrite])
  | conclude i item m p budget waits b => exact absurd (h _ rfl) (by simp [Copy.mayWrite])
  | persist old item new rest b => exact absurd (h _ rfl) (by simp [Copy.mayWrite])
  | lose i item new rest b => exact absurd (h _ rfl) (by simp [Copy.mayWrite])
  | leave i item flight b =>
      refine Or.inr ⟨?_, by simp [Milestone.isLoaded, Milestone.isWrite]⟩
      rintro c' ⟨⟩
  | reset old c b hreset => exact Or.inr ⟨h, by simp [Milestone.isLoaded, Milestone.isWrite]⟩

/-- The milestones before the item is loaded again. -/
def beforeLoad (ms : List Milestone) : List Milestone := ms.takeWhile fun e => !e.isLoaded

theorem quiet_run {l m : Lane} {ms : List Milestone} (h : Quiet l) (hrun : Run l ms m) :
    ∀ e ∈ beforeLoad ms, e.isWrite = false := by
  induction hrun with
  | nil l => simp [beforeLoad]
  | @cons l m n ms ns hstep _ ih =>
      rcases quiet_step h hstep with ⟨item, rfl⟩ | ⟨hquiet, hnone⟩
      · simp [beforeLoad, Milestone.isLoaded]
      · intro e he
        have hbefore : beforeLoad (ms ++ ns) = ms ++ beforeLoad ns :=
          List.takeWhile_append_of_pos fun e he => by simp [hnone e he]
        rw [hbefore] at he
        rcases List.mem_append.1 he with he | he
        · exact (hnone e he).2
        · exact ih hquiet e he

/-- The item stays as some retest has left it while nothing else is written. -/
theorem retested_run (asks : Time → Prop) {l m : Lane} {ms : List Milestone}
    (h : ∃ i asked, l.stored = some i ∧ asks asked ∧ i.Retested asked) (hrun : Run l ms m)
    (hasks : ∀ asked i, .reset asked i ∈ ms → asks asked) (hnone : ∀ e ∈ ms, e.isWrite = false) :
    ∃ i asked, m.stored = some i ∧ asks asked ∧ i.Retested asked := by
  induction hrun with
  | nil l => exact h
  | @cons l m n ms ns hstep _ ih =>
      simp only [List.mem_append] at hasks hnone
      refine ih ?_ (fun asked i hi => hasks asked i (Or.inr hi)) fun e he => hnone e (Or.inr he)
      cases hstep with
      | rearm old item b inRange => cases hnone _ (Or.inl (List.mem_singleton_self _))
      | persist old item new rest b => cases hnone _ (Or.inl (List.mem_singleton_self _))
      | reset old c b hreset =>
          have hask := hasks _ _ (Or.inl (List.mem_singleton_self _))
          exact ⟨_, _, rfl, hask, Item.retested_of_forRetest? hreset⟩
      | _ => exact h

end Lane

/-! ### Runs that write an older copy -/

namespace Polling

variable {timing : Timing} {p : Polling (World MemoryStore)} {id : Uuid} {n : Nat}

/-- There is a run in which an item is written before it is loaded again. -/
def Overwritable (timing : Timing) (id : Uuid) (p : Polling (World MemoryStore)) : Prop :=
  ∃ as : List (Action (World MemoryStore)), (∀ a ∈ as, a.Harmless) ∧
    ∃ ms, (p.run timing as).past = p.past ++ ms ∧
      ∃ e ∈ Lane.beforeLoad (Milestone.about id ms), e.isWrite = true

/-- An action that does not load the item may come first. -/
theorem overwritable_of_act {a : Action (World MemoryStore)} (ha : a.Harmless)
    (ms : List Milestone) (hpast : (p.act timing a).past = p.past ++ ms)
    (hms : ∀ e ∈ ms, e.isLoaded = false)
    (h : Overwritable timing id (p.act timing a)) : Overwritable timing id p := by
  obtain ⟨as, has, ns, hns, e, he, hwrite⟩ := h
  refine ⟨a :: as, ?_, ms ++ ns, ?_, e, ?_, hwrite⟩
  · intro b hb
    rcases List.mem_cons.1 hb with rfl | hb
    · exact ha
    · exact has b hb
  · rw [run_cons, hns, hpast, List.append_assoc]
  · have hbefore : Lane.beforeLoad (Milestone.about id (ms ++ ns)) =
        Milestone.about id ms ++ Lane.beforeLoad (Milestone.about id ns) := by
      rw [Milestone.about_append]
      exact List.takeWhile_append_of_pos fun e he => by simp [hms e (List.mem_filter.1 he).1]
    rw [hbefore]
    exact List.mem_append_right _ he

theorem overwritable_of_write {a : Action (World MemoryStore)} (ha : a.Harmless) {e : Milestone}
    (hpast : (p.act timing a).past = p.past ++ [e]) (he : e.subject = id)
    (hwrite : e.isWrite = true) (hload : e.isLoaded = false) : Overwritable timing id p := by
  refine ⟨[a], by simpa using ha, [e], hpast, e, ?_, hwrite⟩
  rw [Milestone.about_eq_self (by simpa using he)]
  simp [Lane.beforeLoad, hload]

/-- The polling in a world that does not fail. -/
def healed (p : Polling (World MemoryStore)) : Polling (World MemoryStore) :=
  { p with shared := { p.shared with world := p.shared.world.heal } }

theorem overwritable_of_healed (h : Overwritable timing id p.healed) : Overwritable timing id p :=
  overwritable_of_act (a := .outside World.heal) World.sameItems_heal [] (List.append_nil _).symm
    (by simp) h

/-- A dispatch with a write ahead attempts one effect after another until it writes. -/
theorem overwritable_of_recording {found : String} {es : List Effect} {report : Report} {t : Task}
    (hitem : ∃ i, p.shared.world.item? id = some i) (ht : p.tasks[n]? = some t)
    (hid : t.item.id = id) (hown : t.Own) (hphase : t.phase = .recording found es report)
    (hwrites : es.filterMap Effect.written? ≠ []) : Overwritable timing id p := by
  -- Induction on the effects that are left. The world is healed before each of them, so
  -- that the write does not fail when its turn comes.
  induction es generalizing p t found with
  | nil => exact absurd rfl hwrites
  | cons e es ih =>
      refine overwritable_of_healed ?_
      have hpast : (p.healed.act timing (.effect n .epoch)).past =
          p.healed.past ++ t.milestones .epoch p.healed.shared := by
        rw [act_effect (p := p.healed) ht]
        rfl
      by_cases hpersist : ∃ new, e = .persist new
      · obtain ⟨new, rfl⟩ := hpersist
        obtain ⟨i, hi⟩ := hitem
        have hnew : new.id = id := by
          rw [← hid]
          exact hown new (Task.mem_writes_of_persist hphase)
        have hheld : p.healed.shared.world.item? new.id = some i := by
          rw [hnew]
          exact hi
        have hmilestones : t.milestones .epoch p.healed.shared = [.persisted new] := by
          have hhealthy : p.healed.shared.world.Healthy := World.healthy_heal _
          simp only [Task.milestones, hphase]
          rw [World.persist_of_healthy hhealthy hheld]
        rw [hmilestones] at hpast
        exact overwritable_of_write (a := .effect n .epoch) trivial hpast hnew rfl rfl
      · have hother : ∀ i, e ≠ .persist i := fun i hi => hpersist ⟨i, hi⟩
        have hmilestones : t.milestones .epoch p.healed.shared = [] :=
          Task.milestones_of_not_persist hphase hother _ _
        rw [hmilestones] at hpast
        refine overwritable_of_act (a := .effect n .epoch) trivial _ hpast (by simp) ?_
        rw [act_effect (p := p.healed) ht]
        have hsame :
            World.SameItems p.shared.world (t.recordStep .epoch p.healed.shared).2.world := by
          rw [Task.world_recordStep_cons hphase]
          exact (World.sameItems_heal _).trans (World.sameItems_attempt hother _ _ _)
        refine ih ?_ (tasks_advance (p := p.healed) ht _ _) ?_ ?_
          (Task.phase_recordStep_cons hphase _ _) ?_
        · obtain ⟨i, hi⟩ := hitem
          exact ⟨i, (hsame.item? id).trans hi⟩
        · rw [(Task.follows_recordStep t .epoch p.healed.shared).item]
          exact hid
        · exact Task.own_recordStep hown _ _
        · rw [List.filterMap_cons, Effect.written?_eq_none hother] at hwrites
          exact hwrites

/-- After its check a dispatch has a write ahead. -/
theorem overwritable_of_conclude {t : Task} {c : Conclusion}
    (hitem : ∃ i, p.shared.world.item? id = some i)
    (ht : p.tasks[n]? = some (t.conclude c .epoch)) (hid : t.item.id = id) :
    Overwritable timing id p := by
  refine overwritable_of_recording hitem ht hid (Task.own_conclude t c .epoch)
    (Task.phase_conclude t c .epoch) ?_
  rw [Dispatch.writes_settle]
  simp

theorem overwritable_of_task {t : Task} (hitem : ∃ i, p.shared.world.item? id = some i)
    (ht : p.tasks[n]? = some t) (hid : t.item.id = id) (hown : t.Own) (hclaimed : t.claimed = true)
    (hmay : (Copy.flying t.item t.flight).mayWrite p.shared.stopping = true) :
    Overwritable timing id p := by
  cases hphase : t.phase with
  | delayed delay =>
      have hstopping : p.shared.stopping = false := by
        simpa [Task.flight, hphase, Copy.mayWrite] using hmay
      have hbegin : t.beginCheck p.shared.stopping timing.budgetGrace none .epoch =
          (t.conclude .unknownProbe .epoch, [.checked t.item.id .unknown]) := by
        simp only [Task.beginCheck, hphase, Task.begin, hclaimed, hstopping, Bool.and_false,
          Bool.false_eq_true, if_false, Option.map_none, Task.phase_conclude]
      refine overwritable_of_act (a := .beginCheck n none .epoch) trivial
        [.checked t.item.id .unknown] ?_ ?_ ?_
      · rw [act_beginCheck ht, hbegin]
        rfl
      · simp [Milestone.isLoaded]
      · rw [act_beginCheck ht, hbegin]
        exact overwritable_of_conclude hitem (tasks_advance ht _ _) hid
  | checking m program budget =>
      have hend : t.endCheck 0 .epoch =
          (t.conclude (program.endAfter budget 0 m) .epoch,
            [.checked t.item.id (.probed program budget 0)]) := by
        simp only [Task.endCheck, hphase]
      refine overwritable_of_act (a := .endCheck n 0 .epoch) trivial
        [.checked t.item.id (.probed program budget 0)] ?_ ?_ ?_
      · rw [act_endCheck ht, hend]
        rfl
      · simp [Milestone.isLoaded]
      · rw [act_endCheck ht, hend]
        exact overwritable_of_conclude hitem (tasks_advance ht _ _) hid
  | recording found es report =>
      refine overwritable_of_recording hitem ht hid hown hphase ?_
      intro hnone
      simp [Task.flight, hphase, Copy.mayWrite, hnone] at hmay
  | «over» report => simp [Task.flight, hphase, Copy.mayWrite] at hmay

theorem overwritable_of_tick {t : Tick} {c : Copy} (hitem : ∃ i, p.shared.world.item? id = some i)
    (ht : p.ticks[n]? = some t) (hkeyed : t.Keyed) (hc : t.copy? timing id = some c)
    (hmay : c.mayWrite p.shared.stopping = true) : Overwritable timing id p := by
  cases hstage : t.stage with
  | reload claim rest =>
      simp only [Tick.copy?, hstage] at hc
      split at hc
      · cases hc
        cases hmay
      · cases hc
  | reschedule claim item rest =>
      have hkey : item.id = claim := by simpa only [Tick.Keyed, hstage] using hkeyed
      simp only [Tick.copy?, hstage] at hc
      split at hc
      · next hid =>
        refine overwritable_of_healed (overwritable_of_write (a := .stepTick n) trivial
          (e := .rearmed item) ?_ (hkey.trans hid) rfl rfl)
        obtain ⟨i, hi⟩ := hitem
        have hhealthy : p.healed.shared.world.Healthy := World.healthy_heal _
        have hheld : p.healed.shared.world.item? item.id = some i := by
          rw [hkey.trans hid]
          exact hi
        obtain ⟨v, hok⟩ := World.reschedule_of_healthy hhealthy hheld item.progress.nextDue
          item.progress.lastRun
        have hpast := past_stepTick (p := p.healed) timing ht
        simp only [Tick.milestones, hstage, hok] at hpast
        exact hpast
      · cases hc
  | launch claim item rest =>
      have hkey : item.id = claim := by simpa only [Tick.Keyed, hstage] using hkeyed
      simp only [Tick.copy?, hstage] at hc
      split at hc
      · next hid =>
        cases hc
        obtain ⟨hdelay, hstopping⟩ := Bool.and_eq_true_iff.1 hmay
        obtain ⟨delay, hdelay⟩ := Option.isSome_iff_exists.1 hdelay
        have hstep : t.step timing p.shared =
            ({ t with
                stage := .claim rest
                report := { t.report with dispatched := t.report.dispatched ++ [item.id] } },
              p.shared, some ⟨claim, item, delay⟩) := by
          simp only [Tick.step, hstage, Tick.launchStep, hdelay]
        refine overwritable_of_act (a := .stepTick n) trivial [.launched item] ?_ ?_ ?_
        · have hpast := past_stepTick timing ht
          simp only [Tick.milestones, hstep, hstage] at hpast
          exact hpast
        · simp [Milestone.isLoaded]
        · have hshared : (p.act timing (.stepTick n)).shared = p.shared := by
            simp only [act, ht, hstep]
          refine overwritable_of_task (n := p.tasks.length) (t := .ofLaunch ⟨claim, item, delay⟩)
            ?_ ?_ (hkey.trans hid) (Task.own_ofLaunch _) rfl ?_
          · rw [hshared]
            exact hitem
          · simp only [act, ht, hstep]
            exact List.getElem?_concat_length
          · rw [hshared]
            exact hstopping
      · cases hc
  | enumerate => simp only [Tick.copy?, hstage] at hc; cases hc
  | claim rest => simp only [Tick.copy?, hstage] at hc; cases hc
  | done => simp only [Tick.copy?, hstage] at hc; cases hc
  | overflowed => simp only [Tick.copy?, hstage] at hc; cases hc

/-- A copy that can still be written is written in some run before the item is loaded
again. -/
theorem overwritable_of_mayWrite (h : p.Sound) (hitem : ∃ i, p.shared.world.item? id = some i)
    {c : Copy} (hc : c ∈ p.copies timing id) (hmay : c.mayWrite p.shared.stopping = true) :
    Overwritable timing id p := by
  rcases List.mem_append.1 hc with hmem | hmem
  · obtain ⟨t, ht, hcopy⟩ := List.mem_filterMap.1 hmem
    obtain ⟨n, hn⟩ := List.mem_iff_getElem?.1 ht
    exact overwritable_of_tick hitem hn (h.keyed.ticks t ht) hcopy hmay
  · obtain ⟨t, ht, hcopy⟩ := List.mem_filterMap.1 hmem
    obtain ⟨n, hn⟩ := List.mem_iff_getElem?.1 ht
    unfold Task.copy? at hcopy
    split at hcopy
    · next hid =>
      cases hcopy
      have hclaimed : t.claimed = true := by
        rw [Task.claimed, h.keyed.tasks t ht, Option.isSome_some]
      exact overwritable_of_task hitem hn hid (h.own t ht) hclaimed hmay
    · cases hcopy

/-! ### Retests -/

/-- In whatever run, nothing is written to an item before it is loaded again, and it
stays as a retest has left it until something is written. -/
def RetestKept (timing : Timing) (id : Uuid) (p : Polling (World MemoryStore)) : Prop :=
  ∀ as : List (Action (World MemoryStore)), (∀ a ∈ as, a.Harmless) →
    ∃ ms, (p.run timing as).past = p.past ++ ms ∧
      (∀ e ∈ Lane.beforeLoad (Milestone.about id ms), e.isWrite = false) ∧
      ((∀ e ∈ Milestone.about id ms, e.isWrite = false) →
        ∃ i asked, (p.run timing as).shared.world.item? id = some i ∧
          (∃ j, .reset asked j ∈ Milestone.about id (p.run timing as).past) ∧ i.Retested asked)

theorem item?_of_reset (h : p.Sound) {now asked : Time} {new : Item}
    (hreset : (p.act timing (.stepRetest n now)).past = p.past ++ [.reset asked new]) :
    ∃ i, (p.act timing (.stepRetest n now)).shared.world.item? new.id = some i ∧
      i.Retested asked := by
  cases hr : p.retests[n]? with
  | none =>
      simp only [act, hr] at hreset
      simp at hreset
  | some r =>
      simp only [act, hr, List.append_cancel_left_eq] at hreset ⊢
      rcases RetestStage.step_cases now p.shared.world r h.afterItems with
        ⟨-, hnothing⟩ | ⟨asked', loaded, new', hnew, hwrites, hmilestones⟩
      · rw [hnothing] at hreset
        cases hreset
      · rw [hmilestones] at hreset
        cases hreset
        obtain ⟨old, -, hwritten⟩ := hwrites.item?
        exact ⟨_, hwritten, Item.retested_of_forRetest? hnew⟩

theorem not_retestKept_of_overwritable (h : Overwritable timing id p) :
    ¬ RetestKept timing id p := by
  obtain ⟨as, has, ms, hms, e, he, hwrite⟩ := h
  intro hkept
  obtain ⟨ns, hns, hnone, -⟩ := hkept as has
  have hsame : ms = ns := List.append_cancel_left (hms.symm.trans hns)
  rw [hsame] at he
  rw [hnone e he] at hwrite
  cases hwrite

/-- A retest of an item is kept exactly if nobody has a copy of the item then that can
still be written. -/
theorem retest_kept_iff {timing : Timing} {world : World MemoryStore}
    {as : List (Action (World MemoryStore))} {n : Nat} {now asked : Time} {new : Item}
    (hhooks : world.store.afterItems = []) (has : ∀ a ∈ as, a.Harmless)
    (hreset : (((start world).run timing as).act timing (.stepRetest n now)).past =
      ((start world).run timing as).past ++ [.reset asked new]) :
    let p := ((start world).run timing as).act timing (.stepRetest n now)
    RetestKept timing new.id p ↔
      ∀ c ∈ p.copies timing new.id, c.mayWrite p.shared.stopping = false := by
  intro p
  have hstart : ((start world).run timing as).Sound := sound_run (sound_start hhooks) has
  have hsound : p.Sound := sound_act timing hstart trivial
  obtain ⟨i, hi, hretested⟩ := item?_of_reset hstart hreset
  constructor
  · -- A copy that can still be written is written in some run, which the retest forbids.
    intro hkept c hc
    by_contra hmay
    rw [Bool.not_eq_false] at hmay
    exact not_retestKept_of_overwritable (overwritable_of_mayWrite hsound ⟨i, hi⟩ hc hmay) hkept
  · -- Nobody has a copy to write, so a run of the lane writes nothing before it loads.
    intro hquiet bs hbs
    obtain ⟨ms, hms, hrun⟩ := lane_run timing hsound hbs new.id
    have hlane : (p.lane timing new.id).Quiet := fun c hc => hquiet c (List.mem_of_head? hc)
    refine ⟨ms, hms, Lane.quiet_run hlane hrun, ?_⟩
    have hask : .reset asked new ∈ Milestone.about new.id (p.run timing bs).past := by
      rw [hms, hreset]
      simp [Milestone.about]
    refine Lane.retested_run
      (fun asked => ∃ j, .reset asked j ∈ Milestone.about new.id (p.run timing bs).past)
      ⟨i, asked, hi, ⟨new, hask⟩, hretested⟩ hrun ?_
    intro asked' j hj
    refine ⟨j, ?_⟩
    rw [hms, Milestone.about_append]
    exact List.mem_append_right _ hj

/-- With nothing else under way a retest is kept. -/
theorem retest_kept_sample :
    let p := (start Sample.world).run .standard Sample.retest
    RetestKept .standard Sample.item.id (p.act .standard (.stepRetest 0 .epoch)) := by
  intro p
  have hharmless : ∀ a ∈ Sample.retest, a.Harmless := by
    simp [Sample.retest, Action.Harmless]
  have hreset : (p.act .standard (.stepRetest 0 .epoch)).past =
      p.past ++ [.reset .epoch Sample.retested] := rfl
  have hnobody : (p.act .standard (.stepRetest 0 .epoch)).copies .standard Sample.retested.id =
      [] := rfl
  refine (retest_kept_iff rfl hharmless hreset).2 ?_
  rw [hnobody]
  simp

/-- A dispatch that has the item in flight writes it over the retest: the state is known
again, and the item is not due any more. -/
theorem retest_overwritten_sample :
    let p := (start Sample.world).run .standard Sample.retestInFlight
    let q := p.run .standard [.endCheck 0 0 .epoch, .effect 0 .epoch]
    (p.shared.world.item? Sample.item.id).map
        (fun i => (i.progress.state, decide (i.progress.nextDue ≤ .epoch))) =
          some (.unknown, true) ∧
      (q.shared.world.item? Sample.item.id).map
        (fun i => (i.progress.state, decide (i.progress.nextDue ≤ .epoch))) =
          some (.normal, false) ∧
      ¬ RetestKept .standard Sample.item.id p := by
  intro p q
  refine ⟨by decide +kernel, by decide +kernel, ?_⟩
  have hharmless : ∀ a ∈ Sample.retestInFlight, a.Harmless := by
    simp [Sample.retestInFlight, Sample.check, Sample.launch, Sample.retest, Action.Harmless]
  have hsound : p.Sound := sound_run (sound_start rfl) hharmless
  have hitem : (p.shared.world.item? Sample.item.id).isSome = true := by decide +kernel
  have hcopy : (p.copies .standard Sample.item.id).any
      (·.mayWrite p.shared.stopping) = true := by decide +kernel
  obtain ⟨c, hc, hmay⟩ := List.any_eq_true.1 hcopy
  exact not_retestKept_of_overwritable
    (overwritable_of_mayWrite hsound (Option.isSome_iff_exists.1 hitem) hc hmay)

end Polling

end Vigil
