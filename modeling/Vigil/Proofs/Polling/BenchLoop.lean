import Vigil.Proofs.Polling.Uninterrupted
import Vigil.Proofs.Polling.Wakeups
import Vigil.Simulation.Bench

/-!
# The loop of a bench

On a bench the loop takes a whole turn at a time, and a retest goes through all its calls and
answers at once. Both are runs of a `Looping` in which nothing comes between; so what holds of
the loop in every run holds on a bench.
-/

namespace Vigil

namespace Looping

section

variable {σ : Type} [Store σ] [Directory σ] [Exporter σ] {l : Looping σ} {timing : Timing}

/-! ### Moves in a row -/


theorem run_append (timing : Timing) (l : Looping σ) (ms ns : List (LoopMove σ)) :
    l.run timing (ms ++ ns) = (l.run timing ms).run timing ns :=
  List.foldl_append

/-- The loop steps its tick on. -/
theorem run_stepTick (timing : Timing) (k : Nat) (hstage : l.stage = .ticking) :
    ∃ log, l.run timing (List.replicate k .stepTick) =
      { l with polling := l.polling.run timing (List.replicate k (.stepTick 0)), log } := by
  induction k generalizing l with
  | zero => exact ⟨l.log, rfl⟩
  | succ k ih =>
      have hmove : l.move timing .stepTick =
          { l with polling := l.polling.act timing (.stepTick 0) }.see l.listings := by
        simp only [Looping.move, hstage]
      obtain ⟨log, hrun⟩ := ih (l := l.move timing .stepTick) (by rw [hmove]; exact hstage)
      refine ⟨log, hrun.trans ?_⟩
      rw [hmove]
      rfl

/-- A tick that is over is put aside. -/
theorem move_endTick (timing : Timing) (hstage : l.stage = .ticking) {t : Tick}
    (hticks : l.polling.ticks = [t]) (hover : t.isOver = true) :
    l.move timing .endTick =
      { l with
        polling := { l.polling with ticks := [] }
        stage := .afterTick t.stage } := by
  have hdrop : l.polling.act timing (.dropTick 0) = { l.polling with ticks := [] } := by
    simp [Polling.act, hticks, Tick.release, Tick.guard?_of_isOver hover]
  simp only [Looping.move, hstage, hticks, hover, if_true, hdrop]

/-- The loop goes through a whole tick. -/
theorem exists_run_eq_tick (timing : Timing) (now : Time) (hstage : l.stage = .leaving)
    (hticks : l.polling.ticks = []) :
    ∃ ms past log, l.run timing ms =
      { polling :=
          { l.polling with
            shared := (Tick.run timing now l.polling.shared).2.1
            tasks := l.polling.tasks ++
              (Tick.run timing now l.polling.shared).2.2.map Task.ofLaunch
            past }
        stage := .afterTick (Tick.run timing now l.polling.shared).1.stage
        permit := l.permit
        log } := by
  obtain ⟨k, past, hrun⟩ := Polling.run_tick timing l.polling now
  rw [Polling.run_cons, hticks, List.length_nil, List.nil_append] at hrun
  have hbegun : l.move timing (.beginTick now) =
      { l with polling := l.polling.act timing (.startTick now), stage := .ticking }.see
        [.began] := by
    simp only [Looping.move, hstage]
  obtain ⟨log, hsteps⟩ := run_stepTick (l := l.move timing (.beginTick now)) timing k
    (by rw [hbegun]; rfl)
  refine ⟨[.beginTick now] ++ (List.replicate k .stepTick ++ [.endTick]), past, log, ?_⟩
  rw [run_append, run_append]
  simp only [run, List.foldl_cons, List.foldl_nil] at hsteps ⊢
  rw [hsteps, hbegun]
  simp only [see, hrun]
  rw [move_endTick timing rfl rfl (Tick.isOver_run timing now l.polling.shared)]
  simp only [hticks]

end

end Looping

/-! ### Turns of a bench -/

/-- Where the loop of a bench is. -/
def TickLoop.stage? : TickLoop → Option LoopStage
  | absent => none
  | waiting _ => some .turning
  | draining _ => some .stopped
  | ended => some .stopped
  | failed => some .failed

namespace Looping

variable {σ ω : Type}

/-- The loop is where that of a bench is between two turns, and has the same under way. -/
structure Mirrors (l : Looping (World σ)) (b : Bench σ ω) : Prop where
  shared : l.polling.shared = b.shared
  tasks : l.polling.tasks = b.actors.map (·.task)
  permit : l.permit = b.wake
  ticks : l.polling.ticks = []
  stage : b.loop.stage? = some l.stage

variable [Store σ] [Directory σ] [Listing σ] {l : Looping (World σ)} {b : Bench σ ω}

/-- A bench ticks as the loop does once it has left its wait. -/
theorem exists_run_eq_tickInLoop (hshared : l.polling.shared = b.shared)
    (htasks : l.polling.tasks = b.actors.map (·.task)) (hpermit : l.permit = b.wake)
    (hticks : l.polling.ticks = []) (hstage : l.stage = .leaving) (timer : Nat) :
    ∃ ms, (l.run b.timing ms).Mirrors (b.tickInLoop timer) := by
  obtain ⟨ms, past, log, hrun⟩ := exists_run_eq_tick b.timing b.wall hstage hticks
  refine ⟨ms, ?_⟩
  -- What the bench notes in its journal has no part in the tick.
  obtain ⟨journal, hnoted⟩ : ∃ journal, (if b.shared.stopping then b
      else b.note (Bench.listingLines b.shared.world)) = { b with journal } := by
    split <;> exact ⟨_, rfl⟩
  rw [hrun, hshared, htasks]
  unfold Bench.tickInLoop Bench.tickAt
  simp only [hnoted]
  cases hend : (Tick.run b.timing b.wall b.shared).1.stage <;>
    exact ⟨rfl, by simp, hpermit, hticks, rfl⟩

/-- Each turn of a bench's loop is a run of moves of this one, in which nothing comes between. -/
theorem exists_run_eq_pollLoop (h : l.Mirrors b) :
    ∃ ms, (l.run b.timing ms).Mirrors b.pollLoop.1 := by
  have hstage := h.stage
  unfold Bench.pollLoop
  cases hloop : b.loop with
  | waiting timer =>
      rw [hloop] at hstage
      have hturn : l.stage = .turning := (Option.some.inj hstage).symm
      dsimp only
      split
      · next hstop =>
        refine ⟨[.stop], ?_⟩
        have hmove : l.move b.timing .stop = { l with stage := .stopped } := by
          simp only [Looping.move, h.shared, hstop, if_true, Looping.leave, hturn]
        rw [run, List.foldl_cons, hmove]
        exact ⟨h.shared, h.tasks, h.permit, h.ticks, rfl⟩
      · split
        · next hwake =>
          have hmove : l.move b.timing .poll = { l with stage := .leaving, permit := false } := by
            simp only [Looping.move, hturn, h.permit, hwake]
          obtain ⟨ms, hms⟩ := exists_run_eq_tickInLoop (l := l.move b.timing .poll)
            (b := { b with wake := false, loop := .waiting timer }) (by rw [hmove]; exact h.shared)
            (by rw [hmove]; exact h.tasks) (by rw [hmove]) (by rw [hmove]; exact h.ticks)
            (by rw [hmove]) timer
          exact ⟨.poll :: ms, hms⟩
        · split
          · have hmove : l.move b.timing .fire = { l with stage := .leaving } := by
              simp only [Looping.move, Looping.leave, hturn]
            obtain ⟨ms, hms⟩ := exists_run_eq_tickInLoop (l := l.move b.timing .fire) (b := b)
              (by rw [hmove]; exact h.shared) (by rw [hmove]; exact h.tasks)
              (by rw [hmove]; exact h.permit) (by rw [hmove]; exact h.ticks) (by rw [hmove])
              (b.nextTimer timer)
            exact ⟨.fire :: ms, hms⟩
          · exact ⟨[], h⟩
  | draining deadline =>
      rw [hloop] at hstage
      dsimp only
      split
      · exact ⟨[], h.shared, h.tasks, h.permit, h.ticks, hstage⟩
      · exact ⟨[], h⟩
  | _ => exact ⟨[], h⟩

/-! ### Retests of a bench -/

theorem run_beside {σ : Type} [Store σ] [Directory σ] [Exporter σ] {l : Looping σ}
    (timing : Timing) {as : List (Action σ)} (has : ∀ a ∈ as, a.isOfTick = false) :
    ∃ log, l.run timing (as.map .beside) =
        { l with polling := l.polling.run timing as, log } ∧
      ∀ n, .answered n ∈ log → .answered n ∈ l.log := by
  induction as generalizing l with
  | nil => exact ⟨l.log, rfl, fun n => id⟩
  | cons a as ih =>
      have hmove : l.move timing (.beside a) =
          { l with polling := l.polling.act timing a }.see (writings l.polling a) := by
        simp only [move, has a List.mem_cons_self, Bool.false_eq_true, if_false]
      obtain ⟨log, hrun, hlog⟩ := ih (l := l.move timing (.beside a))
        fun b hb => has b (List.mem_cons_of_mem a hb)
      refine ⟨log, ?_, fun n hn => ?_⟩
      · rw [List.map_cons, run, List.foldl_cons]
        refine hrun.trans ?_
        rw [hmove]
        rfl
      · have hseen := hlog n hn
        rw [hmove] at hseen
        exact (List.mem_append.1 hseen).resolve_right (not_answered_of_writings l.polling a n)

omit [Listing σ] in
/-- A retest that goes through all its calls and answers. -/
theorem exists_run_eq_answer (h : l.Mirrors b) (hanswered : l.Answered)
    {as : List (Action (World σ))} (has : ∀ a ∈ as, a.isOfTick = false)
    {r : Except RetestError Nat} {world : World σ} {past : List Milestone}
    (hrun : l.polling.run b.timing as =
      { l.polling with
        shared := { l.polling.shared with world }
        retests := l.polling.retests ++ [.done r]
        past }) :
    ∃ ms, (l.run b.timing ms).Mirrors
      { b with wake := b.wake || r.isOk, shared := { b.shared with world } } := by
  obtain ⟨log, hbeside, hlog⟩ := run_beside (l := l) b.timing has
  rw [hrun] at hbeside
  cases r with
  | error e =>
      refine ⟨as.map .beside, ?_⟩
      rw [hbeside]
      exact ⟨by simp [h.shared], h.tasks, by simp [h.permit, Except.isOk, Except.toBool], h.ticks,
        h.stage⟩
  | ok count =>
      refine ⟨as.map .beside ++ [.answer l.polling.retests.length], ?_⟩
      have hnew : .answered l.polling.retests.length ∉ log := by
        intro hn
        obtain ⟨count, hcount⟩ := hanswered.done _ (hlog _ hn)
        simp at hcount
      have hstage : l.stage ≠ .waiting := by
        intro hw
        have hloop := h.stage
        rw [hw, TickLoop.stage?.eq_def] at hloop
        split at hloop <;> cases hloop
      rw [run_append, hbeside]
      simp only [run, List.foldl_cons, List.foldl_nil, move, List.getElem?_concat_length,
        if_neg hnew]
      unfold notify
      split
      · next hw => exact absurd hw hstage
      · exact ⟨by simp [see, h.shared], h.tasks, by simp [see, Except.isOk, Except.toBool],
          h.ticks, h.stage⟩

theorem not_isOfTick_retest {σ : Type} {first : Action σ} (hfirst : first.isOfTick = false)
    (k n : Nat) (now : Time) :
    ∀ a ∈ first :: List.replicate k (.stepRetest n now), a.isOfTick = false := by
  intro a ha
  rcases List.mem_cons.1 ha with rfl | ha
  · exact hfirst
  · rw [List.eq_of_mem_replicate ha]
    rfl

/-- A retest on a bench is such moves, and then the bench goes on. -/
theorem exists_run_eq_retest (h : l.Mirrors b) (hanswered : l.Answered) (id : Uuid) :
    ∃ k : Bench σ ω, (b.retest id).2 = k.settle Bench.rounds ∧
      ∃ ms, (l.run b.timing ms).Mirrors k := by
  obtain ⟨past, hrun⟩ := Polling.run_retest b.timing l.polling id b.wall
  have hanswer := exists_run_eq_answer h hanswered (not_isOfTick_retest rfl _ _ _) hrun
  rw [h.shared] at hanswer
  refine ⟨_, rfl, ?_⟩
  have hok : ((Retest.one id b.wall b.shared.world).1.map fun _ => 1).isOk =
      (Retest.one id b.wall b.shared.world).1.isOk := by
    cases (Retest.one id b.wall b.shared.world).1 <;> rfl
  rw [hok] at hanswer
  exact hanswer

theorem exists_run_eq_retestAll (h : l.Mirrors b) (hanswered : l.Answered) :
    ∃ k : Bench σ ω, b.retestAll.2 = k.settle Bench.rounds ∧
      ∃ ms, (l.run b.timing ms).Mirrors k := by
  obtain ⟨k, past, hrun⟩ := Polling.run_retestAll b.timing l.polling b.wall
  have hanswer := exists_run_eq_answer h hanswered (not_isOfTick_retest rfl _ _ _) hrun
  rw [h.shared] at hanswer
  exact ⟨_, rfl, hanswer⟩

end Looping

end Vigil
