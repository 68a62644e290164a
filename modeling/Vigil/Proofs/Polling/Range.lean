import Vigil.Proofs.Polling.Clock
import Vigil.Proofs.Polling.Shutdown
import Vigil.Proofs.Scheduler.Range

/-!
# Valid items keep ticks and dispatches in range

The due time that a tick writes is read by the next one, which moves it on again. It never gets
further ahead than the latest tick by the lookahead and an interval, so it is a bound on due
times that ticks, dispatches and the store hand on to each other (`Polling.InRange`). It follows
that no tick ever overflows, and that no dispatch is left without a budget.
-/

namespace Vigil

/-! ### What is kept -/

/-- The items that are stored are in range. -/
structure World.InRange (w : World MemoryStore) : Prop where
  item : ∀ id i, w.item? id = some i → i.InRange
  afterItems : w.store.afterItems = []

namespace World.InRange

variable {w v : World MemoryStore}

theorem of_sameItems (h : w.InRange) (hsame : SameItems w v) : v.InRange :=
  ⟨fun id i hi => h.item id i ((hsame.item? id).symm.trans hi),
    hsame.afterItems.trans h.afterItems⟩

/-- The settings of an item stay, so only the due time that is written matters. -/
theorem of_writes {id : Uuid} {f : Progress → Progress} (h : w.InRange) (hwrites : Writes id f w v)
    (hf : ∀ p, (f p).nextDue.Within (1000000000 + 86400)) : v.InRange := by
  refine ⟨fun other i hi => ?_, hwrites.afterItems.trans h.afterItems⟩
  by_cases hid : other = id
  · subst hid
    obtain ⟨old, hold, hnew⟩ := hwrites.item?
    rw [hnew] at hi
    cases hi
    exact ⟨(h.item other old hold).valid, hf _⟩
  · exact h.item other i ((hwrites.others other hid).symm.trans hi)

end World.InRange

/-! ### Ticks -/

namespace Tick

/-- A tick whose times are in range, as is the item that it has moved on. -/
structure InRange (t : Tick) : Prop where
  now : t.now.Within 0
  horizon : t.horizon.Within 1000000000
  inTime : t.stage ≠ .overflowed
  moved : ∀ i, t.stage.moved? = some i → i.InRange

variable {timing : Timing} {t : Tick} {s : Shared (World MemoryStore)}
variable {id : Uuid} {item : Item} {rest : List Item}

theorem inRange_start (htiming : timing.Moderate) {now : Time} (hnow : now.Within 0)
    (stopping : Bool) : (start timing now stopping).InRange := by
  obtain ⟨horizon, hhorizon, hwithin⟩ := htiming.exists_horizon hnow
  simp only [start, hhorizon]
  split
  · exact ⟨hnow, hnow.mono (by decide), by simp, fun i hi => by cases hi⟩
  · exact ⟨hnow, hwithin, by simp, fun i hi => by cases hi⟩

namespace InRange

theorem goTo (h : t.InRange) {stage : Stage} (hstage : stage ≠ .overflowed)
    (hmoved : ∀ i, stage.moved? = some i → i.InRange) : (t.goTo stage).InRange :=
  ⟨h.now, h.horizon, hstage, hmoved⟩

/-- A stage at which the tick holds no item. -/
theorem goTo_idle (h : t.InRange) {stage : Stage} (hstage : stage ≠ .overflowed)
    (hnone : stage.moved? = none) : (t.goTo stage).InRange :=
  h.goTo hstage fun i hi => by rw [hnone] at hi; cases hi

theorem enumerateStep (h : t.InRange) (hworld : s.world.InRange) :
    (t.enumerateStep s).1.InRange ∧ (t.enumerateStep s).2.world.InRange := by
  have hsame := World.sameItems_items hworld.afterItems
  unfold Tick.enumerateStep
  split
  · next hlisted =>
    rw [hlisted] at hsame
    exact ⟨h.goTo_idle (by simp) rfl, hworld.of_sameItems hsame⟩
  · next hfailed =>
    rw [hfailed] at hsame
    exact ⟨h.goTo_idle (by simp) rfl, hworld.of_sameItems hsame⟩

theorem claimStep (h : t.InRange) (hworld : s.world.InRange) :
    (t.claimStep item rest s).1.InRange ∧ (t.claimStep item rest s).2.world.InRange := by
  unfold Tick.claimStep
  split
  · exact ⟨h.goTo_idle (by simp) rfl, hworld⟩
  · exact ⟨⟨h.now, h.horizon, by simp, fun i hi => by cases hi⟩, hworld⟩

/-- An item that is due is moved on, and not out of range. -/
theorem reloadStep (h : t.InRange) (hworld : s.world.InRange) :
    (t.reloadStep id rest s).1.InRange ∧ (t.reloadStep id rest s).2.world.InRange := by
  have hback : (t.goTo (.claim rest)).InRange := h.goTo_idle (by simp) rfl
  unfold Tick.reloadStep
  rcases World.get?_cases id s.world with hget | ⟨e, hget⟩
  · rw [hget]
    cases hitem : s.world.item? id with
    | none => exact ⟨hback, hworld⟩
    | some old =>
        dsimp only
        split
        · next hdue =>
          obtain ⟨new, hnew, hin⟩ :=
            (hworld.item id old hitem).exists_launchedAt? h.now h.horizon hdue
          rw [rearm?_eq, hnew]
          refine ⟨h.goTo (by simp) fun i hi => ?_, hworld⟩
          cases hi
          exact hin
        · exact ⟨hback, hworld⟩
  · rw [hget]
    exact ⟨hback, hworld⟩

theorem rescheduleStep (h : t.InRange) (hworld : s.world.InRange) (hitem : item.InRange) :
    (t.rescheduleStep id item rest s).1.InRange ∧
      (t.rescheduleStep id item rest s).2.world.InRange := by
  refine ⟨h.goTo (by simp) fun i hi => ?_, ?_⟩
  · cases hi
    exact hitem
  · simp only [Tick.rescheduleStep]
    rcases World.reschedule_cases item.id item.progress.nextDue item.progress.lastRun s.world with
      ⟨v, hok, hwrites⟩ | ⟨e, herror⟩
    · rw [hok]
      exact hworld.of_writes hwrites fun _ => hitem.nextDue
    · rw [herror]
      exact hworld

theorem launchStep (htiming : timing.Moderate) (h : t.InRange) (hworld : s.world.InRange)
    (hitem : item.InRange) :
    (t.launchStep timing id item rest s).1.InRange ∧
      (t.launchStep timing id item rest s).2.1.world.InRange ∧
        ∀ l ∈ (t.launchStep timing id item rest s).2.2, l.item.InRange := by
  obtain ⟨delay, hdelay⟩ := htiming.exists_delay t
  simp only [Tick.launchStep, hdelay]
  refine ⟨⟨h.now, h.horizon, by simp, fun i hi => by cases hi⟩, hworld, ?_⟩
  rintro l ⟨⟩
  exact hitem

/-- A step of a tick. -/
theorem step (htiming : timing.Moderate) (h : t.InRange) (hworld : s.world.InRange) :
    (t.step timing s).1.InRange ∧ (t.step timing s).2.1.world.InRange ∧
      ∀ l ∈ (t.step timing s).2.2, l.item.InRange := by
  have hquiet {r : Tick × Shared (World MemoryStore)} (hr : r.1.InRange ∧ r.2.world.InRange) :
      r.1.InRange ∧ r.2.world.InRange ∧ ∀ l ∈ (none : Option Launch), l.item.InRange :=
    ⟨hr.1, hr.2, fun l hl => by cases hl⟩
  cases hstage : t.stage with
  | enumerate =>
      simp only [Tick.step, hstage]
      exact hquiet (h.enumerateStep hworld)
  | claim rest =>
      cases rest with
      | nil =>
          simp only [Tick.step, hstage]
          exact hquiet (r := (t.goTo .done, s)) ⟨h.goTo_idle (by simp) rfl, hworld⟩
      | cons candidate rest =>
          simp only [Tick.step, hstage]
          exact hquiet (h.claimStep hworld)
  | reload id rest =>
      simp only [Tick.step, hstage]
      exact hquiet (h.reloadStep hworld)
  | reschedule id item rest =>
      simp only [Tick.step, hstage]
      exact hquiet (h.rescheduleStep hworld (h.moved item (by rw [hstage]; rfl)))
  | launch id item rest =>
      simp only [Tick.step, hstage]
      exact h.launchStep htiming hworld (h.moved item (by rw [hstage]; rfl))
  | done =>
      simp only [Tick.step, hstage]
      exact hquiet (r := (t, s)) ⟨h, hworld⟩
  | overflowed => exact absurd hstage h.inTime

end InRange

end Tick

/-! ### Dispatches -/

namespace Task

/-- What a dispatch will report, or has reported. -/
def report? (t : Task) : Option Report :=
  match t.phase with
  | .recording _ _ report => some report
  | .over report => report
  | _ => none

theorem phase_of_report? {t : Task} {r : Report} (h : t.report? = some r) :
    (∃ found es, t.phase = .recording found es r) ∨ t.phase = .over (some r) := by
  unfold report? at h
  split at h
  · next found es report hphase =>
    cases h
    exact .inl ⟨found, es, hphase⟩
  · next hphase => exact .inr (h ▸ hphase)
  · cases h

theorem beginCheck_of_report? {t : Task} {r : Report} (h : t.report? = some r) (stopping : Bool)
    (grace : Duration) (program : Option Program) (now : Time) :
    t.beginCheck stopping grace program now = (t, []) := by
  rcases phase_of_report? h with ⟨found, es, hphase⟩ | hphase <;> simp only [beginCheck, hphase]

theorem endCheck_of_report? {t : Task} {r : Report} (h : t.report? = some r) (waits : Nat)
    (now : Time) : t.endCheck waits now = (t, []) := by
  rcases phase_of_report? h with ⟨found, es, hphase⟩ | hphase <;> simp only [endCheck, hphase]

/-- The steps that are left after the check: one for each effect, and one for the end. -/
def effectsLeft (t : Task) : Nat :=
  match t.phase with
  | .recording _ es _ => es.length + 1
  | _ => 0

theorem phase_of_effectsLeft {t : Task} {r : Report} (hreport : t.report? = some r)
    (hleft : t.effectsLeft = 0) : t.phase = .over (some r) := by
  rcases phase_of_report? hreport with ⟨found, es, hphase⟩ | hphase
  · rw [effectsLeft, hphase] at hleft
    cases hleft
  · exact hphase

theorem report?_recordStep (t : Task) (now : Time) (s : Shared (World MemoryStore)) :
    (t.recordStep now s).1.report? = t.report? := by
  unfold recordStep
  split
  · next hphase => simp only [report?, goTo, hphase]
  · next hphase => simp only [report?, goTo, hphase]
  · rfl

theorem effectsLeft_recordStep (t : Task) (now : Time) (s : Shared (World MemoryStore)) :
    (t.recordStep now s).1.effectsLeft = t.effectsLeft - 1 := by
  cases hphase : t.phase with
  | recording found es report =>
      cases es <;> simp [recordStep, effectsLeft, goTo, hphase]
  | _ => simp [recordStep, effectsLeft, hphase]

/-- A dispatch of an item in range, which has the budget of its item. It is dropped only if the
scheduler shuts down before its check. -/
structure InRange (grace : Duration) (stopping : Bool) (t : Task) : Prop where
  item : t.item.InRange
  writes : ∀ i ∈ t.writes, i.InRange
  budget : ∀ m p budget, t.phase = .checking m p budget →
    t.item.settings.budget? grace = some budget
  report : ∀ r, t.report? = some r → r.item = t.item.id
  dropped : t.phase = .over none → t.claimed = true ∧ stopping = true

variable {grace : Duration} {stopping : Bool} {t : Task}

theorem inRange_delayed (h : t.item.InRange) {delay : Duration}
    (hphase : t.phase = .delayed delay) : t.InRange grace stopping := by
  refine ⟨h, ?_, ?_, ?_, ?_⟩ <;> simp [writes, report?, hphase]

theorem inRange_conclude (h : t.item.InRange) (c : Conclusion) (now : Time) :
    (t.conclude c now).InRange grace stopping where
  item := h
  writes := by
    simp only [conclude, goTo, writes, Dispatch.writes_settle, List.mem_singleton]
    rintro i rfl
    exact ⟨h.valid, h.nextDue⟩
  budget m p budget hphase := by rw [phase_conclude] at hphase; cases hphase
  report r hr := by
    cases hr
    rfl
  dropped hphase := by rw [phase_conclude] at hphase; cases hphase

namespace InRange

theorem shutDown (h : t.InRange grace stopping) : t.InRange grace true :=
  ⟨h.item, h.writes, h.budget, h.report, fun hphase => ⟨(h.dropped hphase).1, rfl⟩⟩

theorem begin (hgrace : grace.nanos ≤ 1000000000 * nanosPerSecond) (h : t.InRange grace stopping)
    (program : Option (Unit → Program)) (now : Time) :
    (t.begin stopping grace program now).InRange grace stopping := by
  obtain ⟨budget, hbudget⟩ := Settings.exists_budget h.item.valid hgrace
  unfold Task.begin
  split
  · next hdropped =>
    refine ⟨h.item, fun i hi => (List.not_mem_nil hi).elim, ?_, ?_, fun _ => ?_⟩
    · rintro m p budget ⟨⟩
    · rintro r ⟨⟩
    · exact (Bool.and_eq_true _ _).mp hdropped
  · split
    · exact inRange_conclude h.item _ now
    · rw [hbudget.budget_eq]
      refine ⟨h.item, fun i hi => (List.not_mem_nil hi).elim, ?_, ?_, ?_⟩
      · rintro m p _ ⟨⟩
        exact hbudget.budget_eq
      · rintro r ⟨⟩
      · rintro ⟨⟩

theorem beginCheck (hgrace : grace.nanos ≤ 1000000000 * nanosPerSecond)
    (h : t.InRange grace stopping) (program : Option Program) (now : Time) :
    (t.beginCheck stopping grace program now).1.InRange grace stopping := by
  unfold Task.beginCheck
  split
  · dsimp only
    split <;> exact h.begin hgrace _ now
  · exact h

theorem endCheck (h : t.InRange grace stopping) (waits : Nat) (now : Time) :
    (t.endCheck waits now).1.InRange grace stopping := by
  unfold Task.endCheck
  split
  · exact inRange_conclude h.item _ now
  · exact h

theorem recordStep (h : t.InRange grace stopping) (now : Time) (s : Shared (World MemoryStore)) :
    (t.recordStep now s).1.InRange grace stopping := by
  unfold Task.recordStep
  split
  · next found report hphase =>
    refine ⟨h.item, fun i hi => (List.not_mem_nil hi).elim, ?_, ?_, ?_⟩
    · rintro m p budget ⟨⟩
    · rintro r ⟨⟩
      exact h.report _ (by rw [report?, hphase])
    · rintro ⟨⟩
  · next found e es report hphase =>
    refine ⟨h.item, fun i hi => ?_, ?_, ?_, ?_⟩
    · obtain ⟨effect, heffect, hwritten⟩ := List.mem_filterMap.1 hi
      refine h.writes i ?_
      simp only [Task.writes, hphase]
      exact List.mem_filterMap.2 ⟨effect, List.mem_cons_of_mem e heffect, hwritten⟩
    · rintro m p budget ⟨⟩
    · rintro r ⟨⟩
      exact h.report _ (by rw [report?, hphase])
    · rintro ⟨⟩
  · exact h

/-- What a dispatch writes is in range. -/
theorem world_recordStep (h : t.InRange grace stopping) (now : Time)
    {s : Shared (World MemoryStore)} (hworld : s.world.InRange) :
    (t.recordStep now s).2.world.InRange := by
  rcases recordStep_cases t now s with
    ⟨hsame, -⟩ | ⟨new, rest, hnew, -, -, ⟨hwrites, -⟩ | ⟨hlost, -⟩⟩
  · exact hworld.of_sameItems hsame
  · exact hworld.of_writes hwrites fun _ => (h.writes new hnew).nextDue
  · rw [hlost]
    exact hworld

end InRange

end Task

/-! ### Runs -/

/-- A step of a tick or of a dispatch, with the clock in the years 0 to 9999. Others leave the
items alone. -/
def Action.IsTimely : Action (World MemoryStore) → Prop
  | .startTick now => now.Within 0
  | .startRetest _ => False
  | .startRetestAll => False
  | .stepRetest _ _ => False
  | .outside change => ∀ w, World.SameItems w (change w)
  | _ => True

/-- Something that goes on: a step of what is under way, or a dispatch of a stored item that no
tick launches. -/
inductive Work where
  | step (a : Action (World MemoryStore))
  | dispatch (id : Uuid)

namespace Work

def IsTimely : Work → Prop
  | step a => a.IsTimely
  | dispatch _ => True

/-- Whether a dispatch is told to go on with its effects. -/
def isEffect (n : Nat) : Work → Bool
  | step (.effect m _) => m == n
  | _ => false

/-- Whether some dispatch is dropped, or is over and forgotten. -/
def isDrop : Work → Bool
  | step (.dropTask _) => true
  | _ => false

theorem exists_of_isEffect {n : Nat} {w : Work} (h : w.isEffect n = true) :
    ∃ now, w = .step (.effect n now) := by
  unfold isEffect at h
  split at h
  · next m now =>
    obtain rfl : m = n := by simpa using h
    exact ⟨now, rfl⟩
  · cases h

end Work

namespace Polling

variable {timing : Timing} {p : Polling (World MemoryStore)}

/-- The polling after a piece of work. -/
def work (timing : Timing) (p : Polling (World MemoryStore)) : Work → Polling (World MemoryStore)
  | .step a => p.act timing a
  | .dispatch id =>
    { p with tasks := p.tasks ++ ((p.shared.world.item? id).map Task.direct).toList }

/-- The polling after pieces of work, one after another. -/
def worked (timing : Timing) (p : Polling (World MemoryStore)) (ws : List Work) :
    Polling (World MemoryStore) :=
  ws.foldl (work timing) p

/-- Whatever is stored or under way is in range. -/
structure InRange (timing : Timing) (p : Polling (World MemoryStore)) : Prop where
  world : p.shared.world.InRange
  ticks : ∀ t ∈ p.ticks, t.InRange
  tasks : ∀ t ∈ p.tasks, t.InRange timing.budgetGrace p.shared.stopping

namespace InRange

theorem setTask (h : p.InRange timing) {n : Nat} {r : Task × List Milestone}
    (hr : r.1.InRange timing.budgetGrace p.shared.stopping) : (p.setTask n r).InRange timing := by
  refine ⟨h.world, h.ticks, fun t ht => ?_⟩
  rcases List.mem_or_eq_of_mem_set ht with ht | rfl
  · exact h.tasks t ht
  · exact hr

theorem act (htiming : timing.Moderate) (h : p.InRange timing) {a : Action (World MemoryStore)}
    (ha : a.IsTimely) : (p.act timing a).InRange timing := by
  cases a with
  | startTick now =>
      refine ⟨h.world, fun t ht => ?_, h.tasks⟩
      rcases List.mem_append.1 ht with ht | ht
      · exact h.ticks t ht
      · rw [List.mem_singleton.1 ht]
        exact Tick.inRange_start htiming ha _
  | stepTick n =>
      simp only [Polling.act]
      split
      · exact h
      · next t ht =>
        obtain ⟨htick, hworld, hlaunch⟩ :=
          (h.ticks t (List.mem_of_getElem? ht)).step htiming h.world
        refine ⟨hworld, fun u hu => ?_, fun u hu => ?_⟩
        · rcases List.mem_or_eq_of_mem_set hu with hu | rfl
          · exact h.ticks u hu
          · exact htick
        · rw [Tick.stopping_step]
          rcases List.mem_append.1 hu with hu | hu
          · exact h.tasks u hu
          · obtain ⟨l, hl, rfl⟩ := Option.map_eq_some_iff.1 (Option.mem_toList.1 hu)
            exact Task.inRange_delayed (hlaunch l hl) rfl
  | dropTick n =>
      simp only [Polling.act]
      split
      · exact h
      · next t ht =>
        refine ⟨?_, fun u hu => h.ticks u (List.mem_of_mem_eraseIdx hu), fun u hu => ?_⟩
        · rw [Tick.world_release]
          exact h.world
        · rw [Tick.stopping_release]
          exact h.tasks u hu
  | beginCheck n program now =>
      simp only [Polling.act]
      split
      · exact h
      · next t ht =>
        exact h.setTask
          ((h.tasks t (List.mem_of_getElem? ht)).beginCheck htiming.budgetGrace program now)
  | endCheck n waits now =>
      simp only [Polling.act]
      split
      · exact h
      · next t ht => exact h.setTask ((h.tasks t (List.mem_of_getElem? ht)).endCheck waits now)
  | effect n now =>
      simp only [Polling.act]
      split
      · exact h
      · next t ht =>
        have htask := h.tasks t (List.mem_of_getElem? ht)
        refine ⟨htask.world_recordStep now h.world, h.ticks, fun u hu => ?_⟩
        have hstopping : (t.recordStep now p.shared).2.stopping = p.shared.stopping :=
          Task.stopping_recordStep t now p.shared
        have hset := (h.setTask (n := n) (r := (_, t.milestones now p.shared))
          (htask.recordStep now p.shared)).tasks u hu
        exact hstopping.symm ▸ hset
  | dropTask n =>
      simp only [Polling.act]
      split
      · exact h
      · next t ht =>
        refine ⟨?_, h.ticks, fun u hu => ?_⟩
        · rw [Task.world_release]
          exact h.world
        · rw [Task.stopping_release]
          exact h.tasks u (List.mem_of_mem_eraseIdx hu)
  | shutDown => exact ⟨h.world, h.ticks, fun t ht => (h.tasks t ht).shutDown⟩
  | outside change => exact ⟨h.world.of_sameItems (ha _), h.ticks, h.tasks⟩
  | startRetest id => exact ha.elim
  | startRetestAll => exact ha.elim
  | stepRetest n now => exact ha.elim

theorem work (htiming : timing.Moderate) (h : p.InRange timing) {w : Work} (hw : w.IsTimely) :
    (p.work timing w).InRange timing := by
  cases w with
  | step a => exact h.act htiming hw
  | dispatch id =>
      refine ⟨h.world, h.ticks, fun t ht => ?_⟩
      rcases List.mem_append.1 ht with ht | ht
      · exact h.tasks t ht
      · obtain ⟨i, hi, rfl⟩ := Option.map_eq_some_iff.1 (Option.mem_toList.1 ht)
        exact Task.inRange_delayed (h.world.item id i hi) rfl

theorem worked (htiming : timing.Moderate) (h : p.InRange timing) {ws : List Work}
    (hws : ∀ w ∈ ws, w.IsTimely) : (p.worked timing ws).InRange timing := by
  induction ws generalizing p with
  | nil => exact h
  | cons w ws ih =>
      obtain ⟨hw, hws⟩ := List.forall_mem_cons.1 hws
      exact ih (h.work htiming hw) hws

end InRange

/-! ### Reports -/

section Reports

variable {n : Nat} {t : Task} {r : Report} {w : Work} {ws : List Work}

/-- After its check a dispatch goes on only with its effects. -/
theorem tasks_work (timing : Timing) (ht : p.tasks[n]? = some t) (hreport : t.report? = some r)
    (heffect : w.isEffect n = false) (hdrop : w.isDrop = false) :
    (p.work timing w).tasks[n]? = some t := by
  cases w with
  | dispatch id =>
      exact (List.getElem?_append_left (List.getElem?_eq_some_iff.1 ht).1).trans ht
  | step a =>
      by_cases hown : a.dispatch? = some n
      · cases a with
        | beginCheck m program now =>
            cases hown
            rw [work, act_beginCheck ht, tasks_advance ht, Task.beginCheck_of_report? hreport]
        | endCheck m waits now =>
            cases hown
            rw [work, act_endCheck ht, tasks_advance ht, Task.endCheck_of_report? hreport]
        | effect m now =>
            cases hown
            simp [Work.isEffect] at heffect
        | _ => cases hown
      · refine tasks_act timing ht hown fun m hm => ?_
        rw [hm] at hdrop
        cases hdrop

/-- Once all its effects were brought about, the dispatch is over with its report. -/
theorem over_of_effects (timing : Timing) (ht : p.tasks[n]? = some t)
    (hreport : t.report? = some r) (hdrop : ∀ w ∈ ws, w.isDrop = false)
    (hcount : t.effectsLeft ≤ ws.countP (·.isEffect n)) :
    ∃ u, (p.worked timing ws).tasks[n]? = some u ∧ u.phase = .over (some r) := by
  induction ws generalizing p t with
  | nil => exact ⟨t, ht, Task.phase_of_effectsLeft hreport (Nat.le_zero.1 hcount)⟩
  | cons w ws ih =>
      obtain ⟨hw, hws⟩ := List.forall_mem_cons.1 hdrop
      cases heffect : w.isEffect n with
      | false =>
          rw [List.countP_cons_of_neg (by simp [heffect])] at hcount
          exact ih (tasks_work timing ht hreport heffect hw) hreport hws hcount
      | true =>
          rw [List.countP_cons_of_pos heffect] at hcount
          obtain ⟨now, rfl⟩ := Work.exists_of_isEffect heffect
          refine ih (p := p.act timing (.effect n now)) (t := (t.recordStep now p.shared).1) ?_ ?_
            hws ?_
          · rw [act_effect ht, tasks_advance ht]
          · rw [Task.report?_recordStep, hreport]
          · rw [Task.effectsLeft_recordStep]
            exact Nat.sub_le_of_le_add hcount

end Reports

/-- Nothing that ticks and dispatches reckon with is out of range. -/
structure KeepsInRange (timing : Timing) (p : Polling (World MemoryStore)) : Prop where
  /-- No horizon, due time or delay is out of range. -/
  ticks : ∀ t ∈ p.ticks, t.stage ≠ .overflowed
  stored : ∀ id i, p.shared.world.item? id = some i →
    ∃ budget, i.settings.Budgeted timing.budgetGrace budget
  tasks : ∀ t ∈ p.tasks, ∃ budget, t.item.settings.Budgeted timing.budgetGrace budget
  checks : ∀ t ∈ p.tasks, ∀ m q budget, t.phase = .checking m q budget →
    t.item.settings.Budgeted timing.budgetGrace budget
  /-- Only shutdown ends a dispatch without a report. -/
  dropped : ∀ t ∈ p.tasks, t.phase = .over none → t.claimed = true ∧ p.shared.stopping = true
  /-- However the check ends and whatever goes on beside it, a report comes of it. -/
  reports : ∀ (n : Nat) (t : Task) m q budget, p.tasks[n]? = some t →
    t.phase = .checking m q budget → ∀ waits now, ∃ effects, ∀ ws : List Work,
      (∀ w ∈ ws, w.isDrop = false) → effects ≤ ws.countP (·.isEffect n) →
        ∃ u r, ((p.act timing (.endCheck n waits now)).worked timing ws).tasks[n]? = some u ∧
          u.phase = .over (some r) ∧ r.item = t.item.id

theorem InRange.keepsInRange (htiming : timing.Moderate) (h : p.InRange timing) :
    p.KeepsInRange timing where
  ticks t ht := (h.ticks t ht).inTime
  stored id i hi := Settings.exists_budget (h.world.item id i hi).valid htiming.budgetGrace
  tasks t ht := Settings.exists_budget (h.tasks t ht).item.valid htiming.budgetGrace
  checks t ht m q budget hphase := by
    have htask := h.tasks t ht
    obtain ⟨b, hb⟩ := Settings.exists_budget htask.item.valid htiming.budgetGrace
    have heq := hb.budget_eq.symm.trans (htask.budget m q budget hphase)
    exact Option.some.inj heq ▸ hb
  dropped t ht := (h.tasks t ht).dropped
  reports n t m q budget ht hphase waits now := by
    have hended : (p.act timing (.endCheck n waits now)).tasks[n]? =
        some (t.endCheck waits now).1 := by
      rw [act_endCheck ht, tasks_advance ht]
    have hreport : ∃ r, (t.endCheck waits now).1.report? = some r ∧ r.item = t.item.id := by
      simp only [Task.endCheck, hphase]
      exact ⟨_, rfl, rfl⟩
    obtain ⟨r, hr, hid⟩ := hreport
    refine ⟨(t.endCheck waits now).1.effectsLeft, fun ws hdrop hcount => ?_⟩
    obtain ⟨u, hu, hover⟩ := over_of_effects timing hended hr hdrop hcount
    exact ⟨u, r, hu, hover, hid⟩

/-- Of a store in memory whose items are valid, no run of ticks and dispatches takes a time or a
duration out of range, whatever the probes do and the store fails at. -/
theorem keeps_in_range {timing : Timing} (htiming : timing.Moderate) {world : World MemoryStore}
    (hvalid : ∀ id i, world.item? id = some i →
      Validation.checkItem i.settings = .ok () ∧ i.progress.nextDue.Within 0)
    (hhooks : world.store.afterItems = []) {ws : List Work} (hws : ∀ w ∈ ws, w.IsTimely) :
    ((start world).worked timing ws).KeepsInRange timing := by
  have hworld : world.InRange := by
    refine ⟨fun id i hi => ?_, hhooks⟩
    obtain ⟨hsettings, hdue⟩ := hvalid id i hi
    exact ⟨hsettings, hdue.mono (by decide)⟩
  have hstart : (start world).InRange timing :=
    ⟨hworld, List.forall_mem_nil _, List.forall_mem_nil _⟩
  exact (hstart.worked htiming hws).keepsInRange htiming

/-- A tick launches the dispatch of an item. Then it is dispatched once more, and its probe
breaks down. -/
theorem keeps_in_range_sample :
    let item : Item := ⟨⟨1⟩, .standard ⟨2⟩ "shell" "tcp" "localhost:22", .fresh .epoch⟩
    let world : World MemoryStore := .start (MemoryStore.empty.put item) .empty .absent
    let ws : List Work := Sample.dispatch.map .step ++
      [.dispatch item.id, .step (.beginCheck 0 (some (.finish (.crash "broken pipe"))) .epoch),
        .step (.endCheck 0 0 .epoch)]
    Timing.standard.Moderate ∧ (∀ id i, world.item? id = some i →
      Validation.checkItem i.settings = .ok () ∧ i.progress.nextDue.Within 0) ∧
        (∀ w ∈ ws, w.IsTimely) ∧ ((start world).worked .standard ws).KeepsInRange .standard := by
  intro item world ws
  have hmoderate : Timing.standard.Moderate := ⟨by decide, by decide, by decide⟩
  have hvalid : ∀ id i, world.item? id = some i →
      Validation.checkItem i.settings = .ok () ∧ i.progress.nextDue.Within 0 := by
    intro id i hi
    have hstored : world.item? id = if item.id = id then some item else none :=
      MemoryStore.getElem?_put _ _ _
    rw [hstored] at hi
    split at hi
    · cases hi
      exact ⟨by decide +kernel, by decide⟩
    · cases hi
  have hnow : Time.epoch.Within 0 := by decide
  have htimely : ∀ w ∈ ws, w.IsTimely := by
    simp [ws, Sample.dispatch, Sample.check, Sample.launch, Work.IsTimely, Action.IsTimely, hnow]
  exact ⟨hmoderate, hvalid, htimely, keeps_in_range hmoderate hvalid rfl htimely⟩

end Polling

end Vigil
