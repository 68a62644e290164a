import Vigil.Proofs.Polling.Fresh
import Vigil.Proofs.Polling.Lane

/-!
# The times of ticks

Every tick sets the time at which it was started as the last run of the items that it takes. So
the times of the ticks that have written or launched an item in a run are read off the copies
of it that they leave in the past of a polling.
-/

namespace Vigil

/-! ### Ticks by the clock -/

namespace Stage

/-- The item as a tick has moved it on. -/
def moved? : Stage → Option Item
  | reschedule _ item _ => some item
  | launch _ item _ => some item
  | _ => none

end Stage

namespace Tick

/-- A tick that was started at one of some times, and sets this time. -/
structure Clocked (timing : Timing) (ticked : Time → Prop) (t : Tick) : Prop where
  ticked : ticked t.now
  timed : Moment.Timed timing t.now t
  lastRun : ∀ i, t.stage.moved? = some i → i.progress.lastRun = some t.now

variable {timing : Timing} {ticked : Time → Prop} {t : Tick} {s : Shared (World MemoryStore)}

theorem clocked_start (timing : Timing) {now : Time} (stopping : Bool) (h : ticked now) :
    (start timing now stopping).Clocked timing ticked := by
  have htimed := Moment.timed_start timing now stopping
  have hnow : (start timing now stopping).now = now := htimed.now_eq
  refine ⟨by rw [hnow]; exact h, by rw [hnow]; exact htimed, fun i hi => ?_⟩
  unfold start at hi
  split at hi
  · cases hi
  · split at hi <;> cases hi

theorem Clocked.step (h : t.Clocked timing ticked) :
    (t.step timing s).1.Clocked timing ticked := by
  have hnow : (t.step timing s).1.now = t.now := (times_step timing t s).1
  have htimed : Moment.Timed timing t.now (t.step timing s).1 :=
    Moment.timed_next (m := ⟨t, s⟩) h.timed
  refine ⟨hnow.symm ▸ h.ticked, hnow.symm ▸ htimed, fun i hi => ?_⟩
  rw [hnow]
  have hmoves := moves_step timing t s
  generalize (t.step timing s).1.stage = next, (t.step timing s).2.2 = launch,
    (t.step timing s).2.1.claims = claims at hmoves hi
  cases hmoves with
  | rest => exact h.lastRun i hi
  | load hstage hitem hdue hnew =>
      cases hi
      obtain ⟨due, -, rfl⟩ := Option.map_eq_some_iff.1 hnew
      rfl
  | write hstage =>
      cases hi
      exact h.lastRun _ (by rw [hstage]; rfl)
  | _ => cases hi

/-- A milestone of a tick is about an item that it has loaded while it was due, or about one that
it had moved on before. -/
theorem mem_milestones {m : Milestone} (hm : m ∈ t.milestones timing s) :
    (∃ old new, m = .loaded new ∧ s.world.item? new.id = some old ∧ t.isOver = false ∧
        old.isDue t.horizon = true ∧ old.launchedAt? t.now = some new) ∨
      ∃ i, t.stage.moved? = some i ∧ (m = .rearmed i ∨ m = .launched i) := by
  have hmoves := moves_step timing t s
  unfold milestones at hm
  split at hm
  · next hstage hnext =>
    rw [List.mem_singleton.1 hm]
    obtain ⟨-, old, hold, hdue, hnew⟩ := hmoves.stage_of_reschedule hnext
    refine .inl ⟨old, _, rfl, ?_, by simp only [isOver, hstage], hdue, hnew⟩
    rw [Item.launchedAt?_id hnew, World.id_of_item? hold]
    exact hold
  · next hstage =>
    split at hm
    · rw [List.mem_singleton.1 hm]
      exact .inr ⟨_, by rw [hstage]; rfl, .inl rfl⟩
    · cases hm
  · next hstage _ =>
    rw [List.mem_singleton.1 hm]
    exact .inr ⟨_, by rw [hstage]; rfl, .inr rfl⟩
  · cases hm

end Tick

/-! ### Milestones of ticks -/

namespace Milestone

/-- Whether a tick has left it. -/
def isOfTick : Milestone → Bool
  | loaded _ => true
  | rearmed _ => true
  | launched _ => true
  | _ => false

/-- The item, if a tick has written its new times. -/
def rearmed? : Milestone → Option Item
  | rearmed i => some i
  | _ => none

/-- The item, if a tick has launched it. -/
def launched? : Milestone → Option Item
  | launched i => some i
  | _ => none

theorem eq_of_rearmed? (m : Milestone) (i : Item) (h : m.rearmed? = some i) :
    m = .rearmed i ∨ m = .launched i := by
  cases m <;> cases h
  exact .inl rfl

theorem eq_of_launched? (m : Milestone) (i : Item) (h : m.launched? = some i) :
    m = .rearmed i ∨ m = .launched i := by
  cases m <;> cases h
  exact .inr rfl

/-- The items with the times that ticks have written, in order. -/
def rearms (ms : List Milestone) : List Item := ms.filterMap rearmed?

/-- The items that were launched, in order. -/
def launches (ms : List Milestone) : List Item := ms.filterMap launched?

theorem rearms_append (ms ns : List Milestone) : rearms (ms ++ ns) = rearms ms ++ rearms ns :=
  List.filterMap_append ..

theorem launches_append (ms ns : List Milestone) :
    launches (ms ++ ns) = launches ms ++ launches ns :=
  List.filterMap_append ..

theorem rearms_append_of_nil (ms : List Milestone) {ns : List Milestone} (h : rearms ns = []) :
    rearms (ms ++ ns) = rearms ms := by
  rw [rearms_append, h, List.append_nil]

theorem launches_append_of_nil (ms : List Milestone) {ns : List Milestone}
    (h : launches ns = []) : launches (ms ++ ns) = launches ms := by
  rw [launches_append, h, List.append_nil]

end Milestone

namespace Task

theorem isOfTick_beginCheck (t : Task) (stopping : Bool) (grace : Duration)
    (program : Option Program) (now : Time) :
    ∀ m ∈ (t.beginCheck stopping grace program now).2, m.isOfTick = false := by
  rcases milestones_beginCheck t stopping grace program now with hnone | ⟨c, hchecked⟩
  · simp [hnone]
  · simp [hchecked, Milestone.isOfTick]

theorem isOfTick_endCheck (t : Task) (waits : Nat) (now : Time) :
    ∀ m ∈ (t.endCheck waits now).2, m.isOfTick = false := by
  rcases milestones_endCheck t waits now with hnone | ⟨c, hchecked⟩
  · simp [hnone]
  · simp [hchecked, Milestone.isOfTick]

theorem isOfTick_milestones (t : Task) (now : Time) (s : Shared (World MemoryStore)) :
    ∀ m ∈ t.milestones now s, m.isOfTick = false := by
  rcases recordStep_cases t now s with
    ⟨-, hnone, -⟩ | ⟨new, rest, -, -, -, ⟨-, hpersisted⟩ | ⟨-, hlost⟩⟩
  · simp [hnone]
  · simp [hpersisted, Milestone.isOfTick]
  · simp [hlost, Milestone.isOfTick]

end Task

theorem RetestStage.isOfTick_step (now : Time) (w : World MemoryStore) (r : RetestStage) :
    ∀ m ∈ (r.step now w).2.2, m.isOfTick = false := by
  intro m hm
  unfold step at hm
  split at hm
  · split at hm <;> cases hm
  · split at hm <;> cases hm
  · split at hm
    · cases hm
    · split at hm
      · cases hm
      · rw [List.mem_singleton.1 hm]
        rfl
  · cases hm
  · split at hm
    · cases hm
    · split at hm
      · rw [List.mem_singleton.1 hm]
        rfl
      · cases hm
  · cases hm

namespace Polling

variable {timing : Timing} {ticked : Time → Prop} {id : Uuid} {p : Polling (World MemoryStore)}

/-- The tick that an action steps. -/
def stepped? (p : Polling (World MemoryStore)) : Action (World MemoryStore) → Option Tick
  | .stepTick n => p.ticks[n]?
  | _ => none

theorem mem_ticks_of_stepped {a : Action (World MemoryStore)} {t : Tick}
    (ht : p.stepped? a = some t) : t ∈ p.ticks := by
  cases a with
  | stepTick n => exact List.mem_of_getElem? ht
  | _ => cases ht

/-- A step of a tick leaves its milestones. -/
theorem past_act_of_stepped (timing : Timing) {a : Action (World MemoryStore)} {t : Tick}
    (ht : p.stepped? a = some t) :
    (p.act timing a).past = p.past ++ t.milestones timing p.shared := by
  cases a with
  | stepTick n => exact past_stepTick timing ht
  | _ => cases ht

/-- No other action leaves a milestone of a tick. -/
theorem exists_past_act (timing : Timing) {a : Action (World MemoryStore)}
    (ha : p.stepped? a = none) :
    ∃ ms, (p.act timing a).past = p.past ++ ms ∧ ∀ m ∈ ms, m.isOfTick = false := by
  have hsame : ∃ ms, p.past = p.past ++ ms ∧ ∀ m ∈ ms, Milestone.isOfTick m = false :=
    ⟨[], (List.append_nil _).symm, by simp⟩
  cases a with
  | stepTick n =>
      have ht : p.ticks[n]? = none := ha
      simp only [act, ht]
      exact hsame
  | dropTick n =>
      simp only [act]
      split <;> exact hsame
  | beginCheck n program now =>
      simp only [act]
      split
      · exact hsame
      · exact ⟨_, rfl, Task.isOfTick_beginCheck _ _ _ _ _⟩
  | endCheck n waits now =>
      simp only [act]
      split
      · exact hsame
      · exact ⟨_, rfl, Task.isOfTick_endCheck _ _ _⟩
  | effect n now =>
      simp only [act]
      split
      · exact hsame
      · exact ⟨_, rfl, Task.isOfTick_milestones _ _ _⟩
  | dropTask n =>
      simp only [act]
      split
      · exact hsame
      · exact ⟨_, rfl, by simp [Milestone.isOfTick]⟩
  | stepRetest n now =>
      simp only [act]
      split
      · exact hsame
      · exact ⟨_, rfl, RetestStage.isOfTick_step now _ _⟩
  | startTick now => exact hsame
  | startRetest id => exact hsame
  | startRetestAll => exact hsame
  | shutDown => exact hsame
  | outside change => exact hsame

/-- What has happened stays. -/
theorem exists_past_run (timing : Timing) (p : Polling (World MemoryStore))
    (as : List (Action (World MemoryStore))) : ∃ ms, (p.run timing as).past = p.past ++ ms := by
  induction as generalizing p with
  | nil => exact ⟨[], (List.append_nil _).symm⟩
  | cons a as ih =>
      obtain ⟨ms, hms⟩ : ∃ ms, (p.act timing a).past = p.past ++ ms := by
        cases ht : p.stepped? a with
        | none =>
            obtain ⟨ms, hms, -⟩ := exists_past_act timing ht
            exact ⟨ms, hms⟩
        | some t => exact ⟨_, past_act_of_stepped timing ht⟩
      obtain ⟨ns, hns⟩ := ih (p.act timing a)
      refine ⟨ms ++ ns, ?_⟩
      rw [run_cons, hns, hms, List.append_assoc]

theorem mem_ticks_act {a : Action (World MemoryStore)} {t : Tick}
    (ht : t ∈ (p.act timing a).ticks) :
    t ∈ p.ticks ∨ (∃ now, a = .startTick now ∧ t = Tick.start timing now p.shared.stopping) ∨
      ∃ u ∈ p.ticks, t = (u.step timing p.shared).1 := by
  cases a with
  | startTick now =>
      rcases List.mem_append.1 ht with ht | ht
      · exact .inl ht
      · exact .inr (.inl ⟨now, rfl, List.mem_singleton.1 ht⟩)
  | stepTick n =>
      simp only [act] at ht
      split at ht
      · exact .inl ht
      · next u hu =>
        rcases List.mem_or_eq_of_mem_set ht with ht | ht
        · exact .inl ht
        · exact .inr (.inr ⟨u, List.mem_of_getElem? hu, ht⟩)
  | dropTick n =>
      simp only [act] at ht
      split at ht
      · exact .inl ht
      · exact .inl (List.mem_of_mem_eraseIdx ht)
  | beginCheck n program now =>
      simp only [act] at ht
      split at ht <;> exact .inl ht
  | endCheck n waits now =>
      simp only [act] at ht
      split at ht <;> exact .inl ht
  | effect n now =>
      simp only [act] at ht
      split at ht <;> exact .inl ht
  | dropTask n =>
      simp only [act] at ht
      split at ht <;> exact .inl ht
  | stepRetest n now =>
      simp only [act] at ht
      split at ht <;> exact .inl ht
  | startRetest id => exact .inl ht
  | startRetestAll => exact .inl ht
  | shutDown => exact .inl ht
  | outside change => exact .inl ht

theorem clocked_act (h : ∀ t ∈ p.ticks, t.Clocked timing ticked)
    {a : Action (World MemoryStore)} (ha : ∀ now, a = .startTick now → ticked now) :
    ∀ t ∈ (p.act timing a).ticks, t.Clocked timing ticked := by
  intro t ht
  rcases mem_ticks_act ht with ht | ⟨now, hstart, rfl⟩ | ⟨u, hu, rfl⟩
  · exact h t ht
  · exact Tick.clocked_start timing _ (ha now hstart)
  · exact (h u hu).step

/-! ### The times of ticks -/

/-- The times of the ticks whose steps leave certain milestones of an item in a run, in order. -/
def tickTimes (timing : Timing) (pick : Milestone → Option Item) (id : Uuid)
    (p : Polling (World MemoryStore)) : List (Action (World MemoryStore)) → List Time
  | [] => []
  | a :: as =>
    (match p.stepped? a with
      | some t =>
        ((Milestone.about id (t.milestones timing p.shared)).filterMap pick).map fun _ => t.now
      | none => []) ++ tickTimes timing pick id (p.act timing a) as

/-- The times of the ticks that write the times of an item. -/
def rearmTimes (timing : Timing) (id : Uuid) (p : Polling (World MemoryStore))
    (as : List (Action (World MemoryStore))) : List Time :=
  p.tickTimes timing Milestone.rearmed? id as

/-- The times of the ticks that launch dispatches of an item. -/
def launchTimes (timing : Timing) (id : Uuid) (p : Polling (World MemoryStore))
    (as : List (Action (World MemoryStore))) : List Time :=
  p.tickTimes timing Milestone.launched? id as

section

variable {pick : Milestone → Option Item}
variable (hpick : ∀ m i, pick m = some i → m = .rearmed i ∨ m = .launched i)

include hpick

/-- What a tick has written or launched carries its time. -/
theorem lastRun_of_mem_milestones {t : Tick} {s : Shared (World MemoryStore)}
    (h : t.Clocked timing ticked) {m : Milestone} (hm : m ∈ t.milestones timing s) {i : Item}
    (hi : pick m = some i) : i.progress.lastRun = some t.now := by
  rcases Tick.mem_milestones hm with ⟨-, new, rfl, -⟩ | ⟨j, hj, rfl | rfl⟩
  · rcases hpick _ i hi with heq | heq <;> cases heq
  · rcases hpick _ i hi with heq | heq <;> cases heq
    exact h.lastRun _ hj
  · rcases hpick _ i hi with heq | heq <;> cases heq
    exact h.lastRun _ hj

theorem map_lastRun_act (hclocked : ∀ t ∈ p.ticks, t.Clocked timing ticked)
    (id : Uuid) (a : Action (World MemoryStore)) :
    ∃ ms, (p.act timing a).past = p.past ++ ms ∧
      ((Milestone.about id ms).filterMap pick).map (·.progress.lastRun) =
        (p.tickTimes timing pick id [a]).map some := by
  cases ht : p.stepped? a with
  | none =>
      obtain ⟨ms, hms, hnone⟩ := exists_past_act timing ht
      refine ⟨ms, hms, ?_⟩
      have hpicked : (Milestone.about id ms).filterMap pick = [] := by
        refine List.filterMap_eq_nil_iff.2 fun m hm => ?_
        refine Option.eq_none_iff_forall_ne_some.2 fun i hi => ?_
        have hother := hnone m (List.mem_filter.1 hm).1
        rcases hpick m i hi with rfl | rfl <;> cases hother
      rw [hpicked, tickTimes, ht]
      rfl
  | some t =>
      refine ⟨_, past_act_of_stepped timing ht, ?_⟩
      simp only [tickTimes, ht, List.append_nil, List.map_map]
      refine List.map_congr_left fun i hi => ?_
      obtain ⟨m, hm, hpicked⟩ := List.mem_filterMap.1 hi
      exact lastRun_of_mem_milestones hpick (hclocked t (mem_ticks_of_stepped ht))
        (List.mem_filter.1 hm).1 hpicked

/-- The copies of an item that ticks have written or launched carry the times of these ticks. -/
theorem map_lastRun_run (hclocked : ∀ t ∈ p.ticks, t.Clocked timing ticked)
    (id : Uuid) {as : List (Action (World MemoryStore))}
    (hticked : ∀ now, .startTick now ∈ as → ticked now) :
    ∃ ms, (p.run timing as).past = p.past ++ ms ∧
      ((Milestone.about id ms).filterMap pick).map (·.progress.lastRun) =
        (p.tickTimes timing pick id as).map some := by
  induction as generalizing p with
  | nil => exact ⟨[], (List.append_nil _).symm, rfl⟩
  | cons a as ih =>
      obtain ⟨ms, hms, hstep⟩ := map_lastRun_act hpick hclocked id a
      obtain ⟨ns, hns, htimes⟩ := ih
        (clocked_act hclocked fun now hnow => hticked now (hnow ▸ List.mem_cons_self))
        fun now hnow => hticked now (List.mem_cons_of_mem a hnow)
      refine ⟨ms ++ ns, ?_, ?_⟩
      · rw [run_cons, hns, hms, List.append_assoc]
      · rw [Milestone.about_append, List.filterMap_append, List.map_append, hstep, htimes,
          ← List.map_append]
        simp only [tickTimes, List.append_nil]

end

theorem exists_launched_of_launchTimes (hclocked : ∀ t ∈ p.ticks, t.Clocked timing ticked)
    {a : Action (World MemoryStore)} {t : Time} (h : p.launchTimes timing id [a] = [t]) :
    ∃ ms i, (p.act timing a).past = p.past ++ ms ∧ .launched i ∈ Milestone.about id ms ∧
      i.progress.lastRun = some t := by
  obtain ⟨ms, hms, htimes⟩ := map_lastRun_act Milestone.eq_of_launched? hclocked id a
  have hmem : some t ∈ ((Milestone.about id ms).filterMap Milestone.launched?).map
      (·.progress.lastRun) := by
    rw [htimes, ← launchTimes, h]
    exact List.mem_singleton_self _
  obtain ⟨i, hi, hlast⟩ := List.mem_map.1 hmem
  obtain ⟨m, hm, hpicked⟩ := List.mem_filterMap.1 hi
  cases m <;> cases hpicked
  exact ⟨ms, i, hms, hm, hlast⟩

/-- Without a tick that writes the times of an item no times are written. -/
theorem rearms_of_rearmTimes (hclocked : ∀ t ∈ p.ticks, t.Clocked timing ticked)
    {as : List (Action (World MemoryStore))} (hticked : ∀ now, .startTick now ∈ as → ticked now)
    (h : p.rearmTimes timing id as = []) :
    Milestone.rearms (Milestone.about id (p.run timing as).past) =
      Milestone.rearms (Milestone.about id p.past) := by
  obtain ⟨ms, hms, htimes⟩ := map_lastRun_run Milestone.eq_of_rearmed? hclocked id hticked
  have hnone : Milestone.rearms (Milestone.about id ms) = [] := by
    rw [← rearmTimes, h] at htimes
    exact List.map_eq_nil_iff.1 htimes
  rw [hms, Milestone.about_append, Milestone.rearms_append_of_nil _ hnone]

end Polling

end Vigil
