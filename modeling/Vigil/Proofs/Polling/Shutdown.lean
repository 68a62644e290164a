import Vigil.Proofs.Polling.Projection

/-!
# No check begins after shutdown

To shut down only sets a flag. A tick that found it down goes on to claim, to write and to
launch, and dispatches wait out their delays; but a dispatch looks at the flag once more before
its check. So from then on the checks under way are some of those that had begun before, and a
dispatch that had not begun its check by then is idle: whatever it does leaves the world as it
is, and at its end its claim is given back.
-/

namespace Vigil

/-! ### Dispatches that have begun their check -/

namespace Task

/-- The dispatch has begun its check, or has found that there is no probe for it. -/
def hasBegun (t : Task) : Bool :=
  match t.phase with
  | .delayed _ => false
  | .over none => false
  | _ => true

/-- The copy that a dispatch works on, once it has begun its check. -/
def begun? (t : Task) : Option Item := if t.hasBegun then some t.item else none

theorem begun?_congr {t u : Task} (hitem : u.item = t.item) (h : u.hasBegun = t.hasBegun) :
    u.begun? = t.begun? := by
  rw [begun?, begun?, hitem, h]

/-- A dispatch that a tick has launched ends after its delay if the scheduler is stopping. -/
theorem beginCheck_of_delayed {t : Task} {delay : Duration} (hclaim : t.claimed = true)
    (hphase : t.phase = .delayed delay) (grace : Duration) (program : Option Program)
    (now : Time) : t.beginCheck true grace program now = (t.goTo (.over none), []) := by
  simp only [beginCheck, hphase, begin, hclaim, Bool.and_self, if_true, goTo]

theorem beginCheck_of_stopping {t : Task} (hclaim : t.claimed = true) (grace : Duration)
    (program : Option Program) (now : Time) :
    t.beginCheck true grace program now = (t, []) ∨
      (∃ delay, t.phase = .delayed delay) ∧
        t.beginCheck true grace program now = (t.goTo (.over none), []) := by
  cases hphase : t.phase with
  | delayed delay =>
      exact .inr ⟨⟨delay, rfl⟩, beginCheck_of_delayed hclaim hphase grace program now⟩
  | _ =>
      simp only [beginCheck, hphase]
      exact .inl trivial

theorem hasBegun_of_phase {t : Task} {delay : Duration} (h : t.phase = .delayed delay) :
    t.hasBegun = false := by
  rw [hasBegun, h]

/-- A dispatch that has not begun its check waits, or is over without a report. -/
theorem phase_of_not_hasBegun {t : Task} (h : t.hasBegun = false) :
    (∃ delay, t.phase = .delayed delay) ∨ t.phase = .over none := by
  unfold hasBegun at h
  split at h
  · next delay hphase => exact .inl ⟨delay, hphase⟩
  · next hphase => exact .inr hphase
  · cases h

theorem begun?_beginCheck {t : Task} (hclaim : t.claimed = true) (grace : Duration)
    (program : Option Program) (now : Time) :
    (t.beginCheck true grace program now).1.begun? = t.begun? := by
  rcases beginCheck_of_stopping hclaim grace program now with hsame | ⟨⟨delay, hphase⟩, hover⟩
  · rw [hsame]
  · rw [hover]
    exact begun?_congr rfl (hasBegun_of_phase hphase).symm

theorem begun?_endCheck (t : Task) (waits : Nat) (now : Time) :
    (t.endCheck waits now).1.begun? = t.begun? := by
  unfold endCheck
  split
  · next m p budget hphase =>
    refine begun?_congr rfl ?_
    rw [hasBegun, phase_conclude, hasBegun, hphase]
  · rfl

/-- Only a dispatch at its check comes to the end of one. -/
theorem endCheck_of_not_hasBegun {t : Task} (h : t.hasBegun = false) (waits : Nat) (now : Time) :
    t.endCheck waits now = (t, []) := by
  rcases phase_of_not_hasBegun h with ⟨delay, hphase⟩ | hphase <;> simp only [endCheck, hphase]

variable {σ : Type} [Store σ] [Directory σ] [Exporter σ]

theorem begun?_recordStep (t : Task) (now : Time) (s : Shared σ) :
    (t.recordStep now s).1.begun? = t.begun? := by
  unfold recordStep
  split
  · next hphase =>
    refine begun?_congr rfl ?_
    simp only [hasBegun, goTo, hphase]
  · next hphase =>
    refine begun?_congr rfl ?_
    simp only [hasBegun, goTo, hphase]
  · rfl

theorem recordStep_of_not_hasBegun {t : Task} (h : t.hasBegun = false) (now : Time)
    (s : Shared σ) : t.recordStep now s = (t, s) := by
  rcases phase_of_not_hasBegun h with ⟨delay, hphase⟩ | hphase <;> simp only [recordStep, hphase]

end Task

/-! ### One dispatch among others -/

/-- The dispatch that an action goes on with. -/
def Action.dispatch? {σ : Type} : Action σ → Option Nat
  | .beginCheck n _ _ => some n
  | .endCheck n _ _ => some n
  | .effect n _ => some n
  | _ => none

/-- A step of a dispatch: the dispatch before and after it, and what it shares with others. At
its end there is no dispatch any more. -/
structure Stride (σ : Type) where
  task : Task
  before : Shared σ
  next : Option Task
  after : Shared σ

/-- The dispatch leaves all as it is and does not begin its check; and at its end it leaves the
world as it is, and its item is free. -/
def Stride.Idle {σ : Type} (s : Stride σ) : Prop :=
  match s.next with
  | some u => s.after = s.before ∧ u.hasBegun = false
  | none => s.after.world = s.before.world ∧ s.after.claims.holds s.task.item.id = false

namespace Polling

variable {σ : Type} [Store σ] [Directory σ] [Exporter σ]
variable {timing : Timing} {p : Polling σ} {n : Nat}

/-- The career of a dispatch through a run, up to where it is over or dropped. Where another
one is dropped, the number of the dispatch may change. -/
def career (timing : Timing) (n : Nat) (p : Polling σ) : List (Action σ) → List (Stride σ)
  | [] => []
  | .dropTask m :: as =>
    if m = n then
      match p.tasks[n]? with
      | none => []
      | some t => [⟨t, p.shared, none, (p.act timing (.dropTask m)).shared⟩]
    else career timing (if m < n then n - 1 else n) (p.act timing (.dropTask m)) as
  | a :: as =>
    if a.dispatch? = some n then
      match p.tasks[n]? with
      | none => []
      | some t =>
        ⟨t, p.shared, (p.act timing a).tasks[n]?, (p.act timing a).shared⟩ ::
          career timing n (p.act timing a) as
    else career timing n (p.act timing a) as

/-- Nothing but its own steps, and drops before it, changes a dispatch or its number. -/
theorem tasks_act (timing : Timing) {t : Task} (ht : p.tasks[n]? = some t) {a : Action σ}
    (hstep : a.dispatch? ≠ some n) (hdrop : ∀ m, a ≠ .dropTask m) :
    (p.act timing a).tasks[n]? = some t := by
  cases a with
  | stepTick m =>
      simp only [act]
      split
      · exact ht
      · exact (List.getElem?_append_left (List.getElem?_eq_some_iff.1 ht).1).trans ht
  | beginCheck m program now =>
      have hne : m ≠ n := fun heq => hstep (heq ▸ rfl)
      simp only [act]
      split
      · exact ht
      · exact (List.getElem?_set_ne hne).trans ht
  | endCheck m waits now =>
      have hne : m ≠ n := fun heq => hstep (heq ▸ rfl)
      simp only [act]
      split
      · exact ht
      · exact (List.getElem?_set_ne hne).trans ht
  | effect m now =>
      have hne : m ≠ n := fun heq => hstep (heq ▸ rfl)
      simp only [act]
      split
      · exact ht
      · exact (List.getElem?_set_ne hne).trans ht
  | dropTask m => exact absurd rfl (hdrop m)
  | dropTick m =>
      simp only [act]
      split <;> exact ht
  | stepRetest m now =>
      simp only [act]
      split <;> exact ht
  | startTick now => exact ht
  | startRetest id => exact ht
  | startRetestAll => exact ht
  | shutDown => exact ht
  | outside change => exact ht

/-- A dispatch has another number once one before it is dropped. -/
theorem tasks_dropTask (timing : Timing) {t : Task} (ht : p.tasks[n]? = some t) {m : Nat}
    (hne : m ≠ n) :
    (p.act timing (.dropTask m)).tasks[if m < n then n - 1 else n]? = some t := by
  have hlt := (List.getElem?_eq_some_iff.1 ht).1
  simp only [act]
  split
  · next hnone =>
    rw [if_neg fun h => Nat.not_lt.2 (List.getElem?_eq_none_iff.1 hnone) (Nat.lt_trans h hlt)]
    exact ht
  · rw [List.getElem?_eraseIdx]
    split
    · rw [if_neg (by omega), Nat.sub_add_cancel (by omega)]
      exact ht
    · rw [if_pos (by omega)]
      exact ht

/-! ### After shutdown -/

theorem stopping_act (timing : Timing) (h : p.shared.stopping = true) (a : Action σ) :
    (p.act timing a).shared.stopping = true := by
  cases a with
  | stepTick n =>
      simp only [act]
      split
      · exact h
      · exact (Tick.stopping_step timing _ _).trans h
  | dropTick n =>
      simp only [act]
      split
      · exact h
      · exact (Tick.stopping_release _ _).trans h
  | effect n now =>
      simp only [act]
      split
      · exact h
      · exact (Task.stopping_recordStep _ now _).trans h
  | dropTask n =>
      simp only [act]
      split
      · exact h
      · exact (Task.stopping_release _ _).trans h
  | beginCheck n program now =>
      simp only [act]
      split <;> exact h
  | endCheck n waits now =>
      simp only [act]
      split <;> exact h
  | stepRetest n now =>
      simp only [act]
      split <;> exact h
  | startTick now => exact h
  | startRetest id => exact h
  | startRetestAll => exact h
  | shutDown => rfl
  | outside change => exact h

theorem stopping_of_act {a : Action σ} (h : (p.act timing a).shared.stopping = false) :
    p.shared.stopping = false := by
  refine Bool.eq_false_iff.2 fun hstop => ?_
  rw [stopping_act timing hstop a] at h
  cases h

theorem stopping_run (timing : Timing) (h : p.shared.stopping = true) (as : List (Action σ)) :
    (p.run timing as).shared.stopping = true := by
  induction as generalizing p with
  | nil => exact h
  | cons a as ih => exact ih (stopping_act timing h a)

omit [Store σ] [Directory σ] [Exporter σ] in
theorem claimed_of_keyed (h : p.Keyed) {t : Task} (ht : p.tasks[n]? = some t) :
    t.claimed = true := by
  rw [Task.claimed, h.tasks t (List.mem_of_getElem? ht), Option.isSome_some]

/-- The copies of the dispatches that have begun their check. -/
def begun (p : Polling σ) : List Item := p.tasks.filterMap Task.begun?

omit [Store σ] [Directory σ] [Exporter σ] in
theorem begun_setTask {t : Task} (ht : p.tasks[n]? = some t) {r : Task × List Milestone}
    (hr : r.1.begun? = t.begun?) : (p.setTask n r).begun = p.begun :=
  filterMap_set_of_eq _ ht hr

/-- No check begins once the scheduler is stopping. -/
theorem begun_act (timing : Timing) (hkeyed : p.Keyed) (hstop : p.shared.stopping = true)
    (a : Action σ) : (p.act timing a).begun.Sublist p.begun := by
  cases a with
  | stepTick n =>
      simp only [act]
      split
      · exact .refl _
      · next t ht =>
        have hlaunch (launch : Option Launch) :
            (launch.map Task.ofLaunch).toList.filterMap Task.begun? = [] := by
          cases launch <;> rfl
        rw [begun, List.filterMap_append, hlaunch, List.append_nil]
        exact .refl _
  | beginCheck n program now =>
      simp only [act]
      split
      · exact .refl _
      · next t ht =>
        rw [hstop, begun_setTask ht (Task.begun?_beginCheck (claimed_of_keyed hkeyed ht) _ _ _)]
  | endCheck n waits now =>
      simp only [act]
      split
      · exact .refl _
      · next t ht => rw [begun_setTask ht (Task.begun?_endCheck t _ _)]
  | effect n now =>
      cases ht : p.tasks[n]? with
      | none =>
          simp only [act, ht]
          exact .refl _
      | some t =>
          have hsame := begun_setTask ht (r := (_, t.milestones now p.shared))
            (Task.begun?_recordStep t now p.shared)
          rw [act_effect ht]
          exact hsame ▸ .refl _
  | dropTask n =>
      simp only [act]
      split
      · exact .refl _
      · exact (List.eraseIdx_sublist _ _).filterMap _
  | dropTick n =>
      simp only [act]
      split <;> exact .refl _
  | stepRetest n now =>
      simp only [act]
      split <;> exact .refl _
  | startTick now => exact .refl _
  | startRetest id => exact .refl _
  | startRetestAll => exact .refl _
  | shutDown => exact .refl _
  | outside change => exact .refl _

variable [KeyedStore σ]

theorem begun_run (timing : Timing) (hkeyed : p.Keyed) (hstop : p.shared.stopping = true)
    (as : List (Action σ)) : (p.run timing as).begun.Sublist p.begun := by
  induction as generalizing p with
  | nil => exact .refl _
  | cons a as ih =>
      exact (ih (keyed_act timing hkeyed a) (stopping_act timing hstop a)).trans
        (begun_act timing hkeyed hstop a)

omit [KeyedStore σ] in
/-- A step of a dispatch that has not begun its check changes nothing once the scheduler is
stopping. -/
theorem idle_act (timing : Timing) (hkeyed : p.Keyed) (hstop : p.shared.stopping = true)
    {t : Task} (ht : p.tasks[n]? = some t) (hwaits : t.hasBegun = false) {a : Action σ}
    (ha : a.dispatch? = some n) :
    (p.act timing a).shared = p.shared ∧
      ∃ u, (p.act timing a).tasks[n]? = some u ∧ u.hasBegun = false := by
  cases a with
  | beginCheck m program now =>
      cases ha
      rw [act_beginCheck ht, hstop]
      refine ⟨rfl, _, tasks_advance ht _ _, ?_⟩
      rcases Task.beginCheck_of_stopping (claimed_of_keyed hkeyed ht) timing.budgetGrace program now
        with hsame | ⟨-, hover⟩
      · rw [hsame]
        exact hwaits
      · rw [hover]
        rfl
  | endCheck m waits now =>
      cases ha
      rw [act_endCheck ht, Task.endCheck_of_not_hasBegun hwaits]
      exact ⟨rfl, t, tasks_advance ht _ _, hwaits⟩
  | effect m now =>
      cases ha
      rw [act_effect ht, Task.recordStep_of_not_hasBegun hwaits]
      exact ⟨rfl, t, tasks_advance ht _ _, hwaits⟩
  | _ => cases ha

omit [KeyedStore σ] in
/-- A dispatch that is dropped gives its claim back. -/
theorem free_dropTask (timing : Timing) (hkeyed : p.Keyed) {t : Task}
    (ht : p.tasks[n]? = some t) :
    (p.act timing (.dropTask n)).shared.world = p.shared.world ∧
      (p.act timing (.dropTask n)).shared.claims.holds t.item.id = false := by
  simp only [act, ht]
  refine ⟨Task.world_release t _, ?_⟩
  simp only [Task.release, hkeyed.tasks t (List.mem_of_getElem? ht), Claims.holds_release,
    decide_true, Bool.not_true, Bool.false_and]

theorem idle_of_career (timing : Timing) (hkeyed : p.Keyed) (hstop : p.shared.stopping = true)
    {t : Task} (ht : p.tasks[n]? = some t) (hwaits : t.hasBegun = false) (as : List (Action σ)) :
    ∀ s ∈ p.career timing n as, s.Idle := by
  -- The induction carries along that the dispatch is there still, and has not begun its check.
  induction as generalizing p n t with
  | nil => exact fun s hs => absurd hs List.not_mem_nil
  | cons a as ih =>
      have hkeyed' := keyed_act timing hkeyed a
      have hstop' := stopping_act timing hstop a
      by_cases hdrop : ∃ m, a = .dropTask m
      · obtain ⟨m, rfl⟩ := hdrop
        simp only [career, ht]
        split
        · next heq =>
          subst heq
          simp only [List.mem_singleton, forall_eq]
          exact free_dropTask timing hkeyed ht
        · next hne => exact ih hkeyed' hstop' (tasks_dropTask timing ht hne) hwaits
      · have hnot : ∀ m, a ≠ .dropTask m := fun m hm => hdrop ⟨m, hm⟩
        rw [career.eq_3 _ _ _ _ _ hnot, ht]
        dsimp only
        split
        · next hown =>
          obtain ⟨hshared, u, hu, hnext⟩ := idle_act timing hkeyed hstop ht hwaits hown
          rintro s (_ | ⟨_, hs⟩)
          · simp only [Stride.Idle, hu]
            exact ⟨hshared, hnext⟩
          · exact ih hkeyed' hstop' hu hnext s hs
        · next hother => exact ih hkeyed' hstop' (tasks_act timing ht hother hnot) hwaits

/-- From here on no check begins, and what goes on still comes to its end. -/
structure WindsDown (timing : Timing) (p : Polling σ) : Prop where
  begun : ∀ as, (p.run timing as).begun.Sublist p.begun
  /-- A dispatch that waits for its check ends without one. -/
  ends : ∀ n t delay program now, p.tasks[n]? = some t → t.phase = .delayed delay →
    (p.act timing (.beginCheck n program now)).tasks[n]? = some (t.goTo (.over none))
  idle : ∀ n t as, p.tasks[n]? = some t → t.hasBegun = false →
    ∀ s ∈ p.career timing n as, s.Idle
  /-- A tick that starts is over with an empty report, and leaves everything as it is. -/
  tick : ∀ now, ∃ t : Tick, Tick.start timing now p.shared.stopping = t ∧
    t.isOver = true ∧ t.report = Tick.emptyReport ∧
    (∀ s : Shared σ, t.step timing s = (t, s, none)) ∧
    Tick.run timing now p.shared = (t, p.shared, [])
  free : (∀ t ∈ p.ticks, t.isOver = true) → p.tasks = [] → p.shared.claims = .empty

theorem windsDown_of_stopping (timing : Timing) (hkeyed : p.Keyed)
    (haccounted : Accounted p.shared.claims p.guards) (hstop : p.shared.stopping = true) :
    p.WindsDown timing where
  begun := begun_run timing hkeyed hstop
  ends := by
    intro n t delay program now ht hphase
    rw [act_beginCheck ht, hstop, tasks_advance ht,
      Task.beginCheck_of_delayed (claimed_of_keyed hkeyed ht) hphase]
  idle := fun n t as ht hwaits => idle_of_career timing hkeyed hstop ht hwaits as
  tick := by
    intro now
    refine ⟨⟨now, now, .done, Tick.emptyReport⟩, ?_, rfl, rfl, fun s => rfl, ?_⟩
    · rw [hstop]
      rfl
    · rw [Tick.run, hstop]
      rfl
  free := by
    intro hticks htasks
    rw [guards_eq_nil hticks htasks] at haccounted
    exact haccounted.eq_empty

/-- Wherever in a run the scheduler is told to shut down, and whatever goes on after that: no
check begins, and what was launched before or is launched still ends without a trace. -/
theorem winds_down_after_shutDown (timing : Timing) (world : σ) (before after : List (Action σ)) :
    ((((start world).run timing before).act timing .shutDown).run timing after).WindsDown
      timing := by
  have hkeyed : ((start world).run timing before).Keyed := keyed_run (keyed_start world) before
  have haccounted : Accounted ((start world).run timing before).shared.claims _ :=
    accounted_run Accounted.empty before
  refine windsDown_of_stopping timing (keyed_run (keyed_act timing hkeyed _) after)
    (accounted_run (accounted_act timing haccounted _) after) ?_
  exact stopping_run timing rfl after

/-- A tick has launched a dispatch, and the scheduler shuts down before its check. -/
theorem winds_down_after_shutDown_sample :
    let p := ((start Sample.world).run .standard Sample.launch).act .standard .shutDown
    let after := [.stepTick 0, .beginCheck 0 (some (.finish (.outcome .pass))) .epoch, .dropTask 0]
    p.tasks.length = 1 ∧ p.shared.claims.holds Sample.item.id = true ∧
      (p.run .standard after).begun = [] ∧ (p.run .standard after).shared.claims = .empty := by
  intro p after
  have hnow : p.WindsDown .standard :=
    winds_down_after_shutDown .standard Sample.world Sample.launch []
  have hlater : (p.run .standard after).WindsDown .standard :=
    winds_down_after_shutDown .standard Sample.world Sample.launch after
  refine ⟨by decide +kernel, by decide +kernel, ?_, ?_⟩
  · have hnone : p.begun = [] := List.isEmpty_iff.1 (by decide +kernel)
    exact List.sublist_nil.1 (hnone ▸ hnow.begun after)
  · exact hlater.free (by decide +kernel) (List.isEmpty_iff.1 (by decide +kernel))

end Polling

end Vigil
