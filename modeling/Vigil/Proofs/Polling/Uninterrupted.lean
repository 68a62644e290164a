import Vigil.Proofs.Polling.Basic
import Vigil.Proofs.Scheduler.Tick

/-!
# What nothing comes between

A tick, the effects of a dispatch and a retest are also there in one go: `Tick.run`,
`Task.record`, `Retest.one` and `Retest.all`. Each of them is a run of a polling in
which nothing else happens. The end of a probe that nobody lets through a gate,
`Program.run`, is its end after some number of waits.
-/

namespace Vigil

/-! ### Checks -/

namespace Program

/-- The edits at the front of a program take no waits. -/
theorem endAfter_settle (budget : Duration) (waits : Nat) (m : Readings) (p : Program) :
    p.endAfter budget waits m =
      match p.settle m, waits with
      | (_, .done c), _ => c
      | (m, _), 0 => .overran budget m
      | (m, .sleeping _ rest), n + 1 => rest.endAfter budget n m
      | (m, .atGate rest), n + 1 => rest.endAfter budget n m := by
  induction p generalizing m with
  | finish e => rfl
  | edit e rest ih => exact ih (e.apply m)
  | sleep d rest => cases waits <;> rfl
  | await rest => cases waits <;> rfl

theorem exists_run_eq_endAfter (budget : Duration) (left : Nat) (m : Readings) (p : Program) :
    ∃ waits, p.run budget left m = p.endAfter budget waits m := by
  induction p generalizing m left with
  | finish e => exact ⟨0, rfl⟩
  | edit e rest ih => exact ih left (e.apply m)
  | sleep d rest ih =>
      by_cases hleft : d.nanos ≤ left
      · obtain ⟨waits, hend⟩ := ih (left - d.nanos) m
        refine ⟨waits + 1, ?_⟩
        rw [run, if_pos hleft, hend, endAfter]
      · refine ⟨0, ?_⟩
        rw [run, if_neg hleft, endAfter]
  | await rest => exact ⟨0, rfl⟩

end Program

/-! ### Ticks -/

namespace Tick

theorem stage_start {timing : Timing} {now : Time} {stopping : Bool}
    (h : (start timing now stopping).isOver = false) :
    (start timing now stopping).stage = .enumerate := by
  cases stopping with
  | true => cases h
  | false =>
      simp only [start, Bool.false_eq_true, if_false] at h ⊢
      cases hhorizon : timing.horizon? now with
      | none =>
          rw [hhorizon] at h
          cases h
      | some horizon => rfl

section

variable {σ : Type} [Store σ] {t : Tick}

/-- A tick that has listed the items comes closer to its end with each step. -/
theorem stepBound_step (timing : Timing) (hover : t.isOver = false) (hlisted : t.stage ≠ .enumerate)
    (s : Shared σ) :
    (t.step timing s).1.stage ≠ .enumerate ∧
      stepBound (t.step timing s).1.stage < stepBound t.stage := by
  cases hstage : t.stage with
  | enumerate => exact absurd hstage hlisted
  | claim rest =>
      cases rest with
      | nil => simp [step, hstage, goTo, stepBound]
      | cons c rest =>
          simp only [step, hstage, claimStep]
          split
          · simp only [goTo, stepBound, List.length_cons]
            exact ⟨by simp, by omega⟩
          · simp [stepBound]
  | reload id rest =>
      simp only [step, hstage, reloadStep]
      split
      · split
        · split <;> simp [goTo, stepBound]
        · simp [goTo, stepBound]
      · simp [goTo, stepBound]
  | reschedule id item rest => simp [step, hstage, rescheduleStep, goTo, stepBound]
  | launch id item rest =>
      simp only [step, hstage, launchStep]
      split <;> simp [goTo, stepBound]
  | done => simp [isOver, hstage] at hover
  | overflowed => simp [isOver, hstage] at hover

theorem isOver_steps (timing : Timing) {fuel : Nat} (hlisted : t.stage ≠ .enumerate)
    (hfuel : stepBound t.stage ≤ fuel) (s : Shared σ) (launches : List Launch) :
    (steps timing fuel t s launches).1.isOver = true := by
  induction fuel generalizing t s launches with
  | zero =>
      cases hover : t.isOver with
      | true => rw [steps_of_over hover, hover]
      | false =>
          have hstep := (stepBound_step timing hover hlisted s).2
          omega
  | succ fuel ih =>
      cases hover : t.isOver with
      | true => rw [steps_of_over hover, hover]
      | false =>
          obtain ⟨hnext, hstep⟩ := stepBound_step timing hover hlisted s
          rw [steps_succ hover]
          exact ih hnext (by omega) _ _

/-- A whole tick comes to its end. -/
theorem isOver_run (timing : Timing) (now : Time) (s : Shared σ) :
    (run timing now s).1.isOver = true := by
  unfold run
  dsimp only
  split
  · next hover => exact hover
  · next hover =>
    refine isOver_steps timing ?_ (Nat.le_refl _) _ _
    rw [Bool.not_eq_true] at hover
    simp only [step, stage_start hover, enumerateStep]
    split <;> simp [goTo]

end

theorem exists_run_eq_steps {σ : Type} [Store σ] (timing : Timing) (now : Time) (s : Shared σ) :
    ∃ fuel, run timing now s =
      steps timing fuel (start timing now s.stopping) s [] := by
  cases hover : (start timing now s.stopping).isOver with
  | true =>
      refine ⟨0, ?_⟩
      simp only [run, hover, if_true, steps]
  | false =>
      have hnone : ((start timing now s.stopping).step timing s).2.2 = none := by
        simp only [step, stage_start hover]
      refine ⟨stepBound ((start timing now s.stopping).step timing s).1.stage + 1, ?_⟩
      rw [steps_succ hover, hnone]
      simp only [run, hover, Bool.false_eq_true, if_false]
      rfl

end Tick

namespace Polling

variable {σ : Type} [Store σ] [Directory σ] [Exporter σ]
variable {timing : Timing} {p : Polling σ} {n : Nat}

theorem act_stepTick_of_over {t : Tick} (ht : p.ticks[n]? = some t) (hover : t.isOver = true) :
    p.act timing (.stepTick n) = p := by
  obtain ⟨hn, rfl⟩ := List.getElem?_eq_some_iff.1 ht
  unfold Tick.isOver at hover
  simp only [act, ht]
  split at hover
  · next hstage => simp [Tick.step, Tick.milestones, hstage]
  · next hstage => simp [Tick.step, Tick.milestones, hstage]
  · cases hover

/-- The steps of one tick are those of `Tick.steps`, and every launch makes a task. -/
theorem run_stepTick (k : Nat) {t : Tick} (ht : p.ticks[n]? = some t) {tasks : List Task}
    {launches : List Launch} (htasks : p.tasks = tasks ++ launches.map Task.ofLaunch) :
    ∃ past, p.run timing (List.replicate k (.stepTick n)) =
      { p with
        shared := (Tick.steps timing k t p.shared launches).2.1
        ticks := p.ticks.set n (Tick.steps timing k t p.shared launches).1
        tasks := tasks ++ (Tick.steps timing k t p.shared launches).2.2.map Task.ofLaunch
        past } := by
  induction k generalizing p t launches with
  | zero =>
      obtain ⟨hn, rfl⟩ := List.getElem?_eq_some_iff.1 ht
      refine ⟨p.past, ?_⟩
      simp only [List.replicate_zero, run_nil, Tick.steps, List.set_getElem_self, ← htasks]
  | succ k ih =>
      rw [List.replicate_succ, run_cons]
      cases hover : t.isOver with
      | true =>
          rw [act_stepTick_of_over ht hover]
          obtain ⟨past, hrun⟩ := ih ht htasks
          rw [Tick.steps_of_over hover] at hrun
          rw [Tick.steps_of_over hover]
          exact ⟨past, hrun⟩
      | false =>
          have hn : n < p.ticks.length := (List.getElem?_eq_some_iff.1 ht).1
          have hact : p.act timing (.stepTick n) =
              { p with
                shared := (t.step timing p.shared).2.1
                ticks := p.ticks.set n (t.step timing p.shared).1
                tasks := p.tasks ++ ((t.step timing p.shared).2.2.map Task.ofLaunch).toList
                past := p.past ++ t.milestones timing p.shared } := by
            simp only [act, ht]
          have hnext : p.tasks ++ ((t.step timing p.shared).2.2.map Task.ofLaunch).toList =
              tasks ++ (launches ++ (t.step timing p.shared).2.2.toList).map Task.ofLaunch := by
            rw [htasks, List.map_append, ← List.append_assoc]
            cases (t.step timing p.shared).2.2 <;> rfl
          rw [hact, Tick.steps_succ hover]
          obtain ⟨past, hrun⟩ := ih (p := { p with
            shared := (t.step timing p.shared).2.1
            ticks := p.ticks.set n (t.step timing p.shared).1
            tasks := p.tasks ++ ((t.step timing p.shared).2.2.map Task.ofLaunch).toList
            past := p.past ++ t.milestones timing p.shared })
            (List.getElem?_set_self hn) hnext
          refine ⟨past, hrun.trans ?_⟩
          rw [List.set_set]

/-- A whole tick. -/
theorem run_tick (timing : Timing) (p : Polling σ) (now : Time) :
    ∃ k past,
      p.run timing (.startTick now :: List.replicate k (.stepTick p.ticks.length)) =
        { p with
          shared := (Tick.run timing now p.shared).2.1
          ticks := p.ticks ++ [(Tick.run timing now p.shared).1]
          tasks := p.tasks ++ (Tick.run timing now p.shared).2.2.map Task.ofLaunch
          past } := by
  obtain ⟨fuel, hfuel⟩ := Tick.exists_run_eq_steps timing now p.shared
  have hticks : (p.act timing (.startTick now)).ticks[p.ticks.length]? =
      some (Tick.start timing now p.shared.stopping) := List.getElem?_concat_length
  have htasks : (p.act timing (.startTick now)).tasks =
      p.tasks ++ ([] : List Launch).map Task.ofLaunch := (List.append_nil _).symm
  obtain ⟨past, hrun⟩ := run_stepTick fuel hticks htasks
  refine ⟨fuel, past, ?_⟩
  rw [hfuel, run_cons, hrun]
  simp [act]

/-! ### Dispatches -/

/-- All effects of a dispatch. -/
theorem run_effects {found : String} {es : List Effect} {report : Report} {t : Task}
    (ht : p.tasks[n]? = some t) (hphase : t.phase = .recording found es report) (now : Time) :
    ∃ past, p.run timing (List.replicate (es.length + 1) (.effect n now)) =
      { p with
        shared := (t.record now p.shared).2
        tasks := p.tasks.set n (t.record now p.shared).1
        past } := by
  rw [List.replicate_succ, run_cons, act_effect ht]
  induction es generalizing p t found with
  | nil =>
      refine ⟨p.past ++ t.milestones now p.shared, ?_⟩
      simp only [List.length_nil, List.replicate_zero, run_nil, advance, setTask,
        Task.recordStep, Task.record, hphase, Effect.performAll_nil]
  | cons e es ih =>
      have hnext := tasks_advance ht ((t.recordStep now p.shared).1, t.milestones now p.shared)
        (t.recordStep now p.shared).2
      have hrecording : (t.recordStep now p.shared).1.phase =
          .recording (e.perform now found p.shared.world).1 es report := by
        simp only [Task.recordStep, hphase, Task.goTo]
      rw [List.length_cons, List.replicate_succ, run_cons, act_effect hnext]
      obtain ⟨past, hrun⟩ := ih hnext hrecording
      refine ⟨past, hrun.trans ?_⟩
      simp only [advance, setTask, List.set_set, Task.record, hrecording]
      simp only [Task.recordStep, hphase, Task.goTo, Effect.performAll_cons]

end Polling

/-! ### Retests -/

namespace RetestStage

variable {σ : Type} [Store σ]

/-- Up to `k` steps of a retest at one time. -/
def steps (now : Time) : Nat → RetestStage → σ → RetestStage × σ
  | 0, r, s => (r, s)
  | k + 1, r, s => steps now k (r.step now s).1 (r.step now s).2.1

theorem steps_done (now : Time) (k : Nat) (result : Except RetestError Nat) (s : σ) :
    steps now k (.done result) s = (.done result, s) := by
  induction k with
  | zero => rfl
  | succ k ih => exact ih

/-- A retest of one item. -/
theorem steps_load (id : Uuid) (now : Time) (s : σ) :
    steps now 2 (.load id) s =
      (.done ((Retest.one id now s).1.map fun _ => 1), (Retest.one id now s).2) := by
  rw [steps, Retest.one]
  cases hload : (Retest.load id : Access σ _) s with
  | mk answer t =>
      cases answer with
      | error e =>
          simp only [step, hload]
          rfl
      | ok item =>
          simp only [step, hload]
          cases hnew : item.forRetest? now with
          | none =>
              simp only [steps, step, hnew]
              rfl
          | some new =>
              simp only [steps, step, hnew]
              cases hupdate : (Store.update new : Access σ _) t with
              | mk answer u => cases answer <;> rfl

theorem steps_writeAll (now : Time) (items : List Item) (count : Nat) (s : σ) :
    steps now (items.length + 1) (.writeAll now items count) s =
      (.done (((Retest.writeAll now items count s).1.elim (.error .overflow) .ok)),
        (Retest.writeAll now items count s).2) := by
  induction items generalizing count s with
  | nil => rfl
  | cons item items ih =>
      rw [List.length_cons, steps]
      simp only [step, Retest.writeAll]
      cases item.forRetest? now with
      | none => exact steps_done now _ _ s
      | some new =>
          dsimp only
          cases hupdate : (Store.update new : Access σ _) s with
          | mk answer t =>
              cases answer with
              | ok _ => exact ih (count + 1) t
              | error e => exact ih count t

/-- A retest of all items. -/
theorem exists_steps_list (now : Time) (s : σ) :
    ∃ k, steps now k .list s = (.done (Retest.all now s).1, (Retest.all now s).2) := by
  unfold Retest.all
  cases hitems : (Store.items : Access σ _) s with
  | mk answer t =>
      cases answer with
      | error e =>
          refine ⟨1, ?_⟩
          simp only [steps, step, hitems]
      | ok items =>
          refine ⟨(items.filter Retest.isPending).length + 2, ?_⟩
          rw [steps]
          simp only [step, hitems]
          rw [steps_writeAll]
          cases hall : Retest.writeAll now (items.filter Retest.isPending) 0 t with
          | mk total u => cases total <;> rfl

end RetestStage

namespace Polling

variable {σ : Type} [Store σ] [Directory σ] [Exporter σ]
variable {timing : Timing} {p : Polling σ} {n : Nat}

theorem run_stepRetest (now : Time) (k : Nat) {r : RetestStage} (hr : p.retests[n]? = some r) :
    ∃ past, p.run timing (List.replicate k (.stepRetest n now)) =
      { p with
        shared := { p.shared with world := (r.steps now k p.shared.world).2 }
        retests := p.retests.set n (r.steps now k p.shared.world).1
        past } := by
  induction k generalizing p r with
  | zero =>
      obtain ⟨hn, rfl⟩ := List.getElem?_eq_some_iff.1 hr
      refine ⟨p.past, ?_⟩
      simp only [List.replicate_zero, run_nil, RetestStage.steps, List.set_getElem_self]
  | succ k ih =>
      have hn : n < p.retests.length := (List.getElem?_eq_some_iff.1 hr).1
      have hnext : (p.act timing (.stepRetest n now)).retests[n]? =
          some (r.step now p.shared.world).1 := by
        simp only [act, hr]
        exact List.getElem?_set_self hn
      obtain ⟨past, hrun⟩ := ih hnext
      refine ⟨past, ?_⟩
      rw [List.replicate_succ, run_cons, hrun]
      simp only [act, hr, List.set_set, RetestStage.steps]

theorem run_retest (timing : Timing) (p : Polling σ) (id : Uuid) (now : Time) :
    ∃ past,
      p.run timing (.startRetest id :: List.replicate 2 (.stepRetest p.retests.length now)) =
        { p with
          shared := { p.shared with world := (Retest.one id now p.shared.world).2 }
          retests := p.retests ++ [.done ((Retest.one id now p.shared.world).1.map fun _ => 1)]
          past } := by
  have hr : (p.act timing (.startRetest id)).retests[p.retests.length]? = some (.load id) :=
    List.getElem?_concat_length
  obtain ⟨past, hrun⟩ := run_stepRetest now 2 hr
  refine ⟨past, ?_⟩
  rw [run_cons, hrun, RetestStage.steps_load]
  simp [act]

theorem run_retestAll (timing : Timing) (p : Polling σ) (now : Time) :
    ∃ k past,
      p.run timing (.startRetestAll :: List.replicate k (.stepRetest p.retests.length now)) =
        { p with
          shared := { p.shared with world := (Retest.all now p.shared.world).2 }
          retests := p.retests ++ [.done (Retest.all now p.shared.world).1]
          past } := by
  have hr : (p.act timing .startRetestAll).retests[p.retests.length]? = some .list :=
    List.getElem?_concat_length
  obtain ⟨k, hsteps⟩ := RetestStage.exists_steps_list now p.shared.world
  obtain ⟨past, hrun⟩ := run_stepRetest now k hr
  have hworld : (p.act timing .startRetestAll).shared.world = p.shared.world := rfl
  refine ⟨k, past, ?_⟩
  rw [run_cons, hrun, hworld, hsteps]
  simp [act]

end Polling

end Vigil
