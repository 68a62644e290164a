import Vigil.Proofs.Polling.Shutdown
import Vigil.Proofs.Polling.Uninterrupted

/-!
# No wake-up is lost

The loop waits for its timer, for a wake-up or for the end, and then ticks. A retest that has
written its items wakes the loop: it ends a wait that is going on, and else it leaves a permit,
of which there is one at most. A `Looping` is the loop beside a polling, and a `LoopMove` is
one step of one of them. The next wait takes the permit, and a wait that the timer ends after
it was woken passes its wake-up on; so a retest that was answered is followed by a listing
before the loop waits again.

The loop of a bench goes through such moves in a row; see `Vigil.Proofs.Polling.BenchLoop`.
-/

namespace Vigil

/-! ### The loop -/

/-- Where the loop is. -/
inductive LoopStage where
  /-- At the start of a turn; it has not asked for wake-ups yet. -/
  | turning
  | waiting
  /-- Its wait was ended by a wake-up, and it has not gone on yet. -/
  | woken
  /-- It goes on to begin a tick. -/
  | leaving
  | ticking
  | stopped
  /-- A tick overflowed. -/
  | failed
deriving DecidableEq

/-- Whether the wait is over and a tick is to begin. -/
def LoopStage.isAwake : LoopStage → Bool
  | woken => true
  | leaving => true
  | _ => false

/-- Whether the loop has not gone on from its wait. -/
def LoopStage.inWait : LoopStage → Bool
  | turning => true
  | waiting => true
  | woken => true
  | _ => false

/-- Where the loop is after a tick that has ended at a stage. -/
def LoopStage.afterTick : Stage → LoopStage
  | .overflowed => failed
  | _ => turning

/-- What can be seen of the loop and of retests, which go by their numbers. -/
inductive LoopEvent where
  | began
  /-- The tick of the loop has asked the store for its items. -/
  | listed
  | wrote (n : Nat)
  /-- A retest has woken the loop and has answered that it was recorded. Nothing comes
  between the two. -/
  | answered (n : Nat)
deriving DecidableEq

/-- The loop, beside all that it has under way. -/
structure Looping (σ : Type) where
  polling : Polling σ
  stage : LoopStage
  /-- Whether the next wait is over at once. -/
  permit : Bool
  /-- What was seen so far, the oldest first. -/
  log : List LoopEvent

/-- One step of the loop, or of what goes on beside it. -/
inductive LoopMove (σ : Type) where
  /-- The loop looks for a wake-up, and waits for one if there is none. -/
  | poll
  | fire
  | stop
  | beginTick (now : Time)
  | stepTick
  | endTick
  | answer (n : Nat)
  /-- Anything but a tick: the loop alone ticks. -/
  | beside (a : Action σ)

def Action.isOfTick {σ : Type} : Action σ → Bool
  | .startTick _ => true
  | .stepTick _ => true
  | .dropTick _ => true
  | _ => false

namespace Looping

section

variable {σ : Type}

def start (world : σ) : Looping σ := ⟨.start world, .turning, false, []⟩

/-- The loop after a wake-up. -/
def notify (l : Looping σ) : Looping σ :=
  match l.stage with
  | .waiting => { l with stage := .woken }
  | _ => { l with permit := true }

/-- The loop after a wait that something else than a wake-up has ended. A wake-up that came
before that is passed on. -/
def leave (l : Looping σ) (stage : LoopStage) : Looping σ :=
  match l.stage with
  | .turning => { l with stage }
  | .waiting => { l with stage }
  | .woken => { l with stage, permit := true }
  | _ => l

def see (l : Looping σ) (events : List LoopEvent) : Looping σ := { l with log := l.log ++ events }

/-- How far the tick of the loop is. -/
def tickStage? (l : Looping σ) : Option Stage := l.polling.ticks.head?.map (·.stage)

/-- What is seen of a step of the loop's tick. -/
def listings (l : Looping σ) : List LoopEvent :=
  match l.tickStage? with
  | some .enumerate => [.listed]
  | _ => []

variable [Store σ]

/-- What is seen of an action beside the loop. -/
def writings (p : Polling σ) : Action σ → List LoopEvent
  | .stepRetest n now =>
    match p.retests[n]? with
    | none => []
    | some r => (r.step now p.shared.world).2.2.map fun _ => .wrote n
  | _ => []

variable [Directory σ] [Exporter σ]

/-- The loop after a move. A move that does not fit changes nothing. -/
def move (timing : Timing) (l : Looping σ) : LoopMove σ → Looping σ
  | .poll =>
    match l.stage, l.permit with
    | .turning, true => { l with stage := .leaving, permit := false }
    | .turning, false => { l with stage := .waiting }
    | .woken, _ => { l with stage := .leaving }
    | _, _ => l
  | .fire => l.leave .leaving
  | .stop => if l.polling.shared.stopping then l.leave .stopped else l
  | .beginTick now =>
    match l.stage with
    | .leaving =>
      { l with polling := l.polling.act timing (.startTick now), stage := .ticking }.see [.began]
    | _ => l
  | .stepTick =>
    match l.stage with
    | .ticking => { l with polling := l.polling.act timing (.stepTick 0) }.see l.listings
    | _ => l
  | .endTick =>
    match l.stage, l.polling.ticks with
    | .ticking, t :: _ =>
      if t.isOver then
        { l with
          polling := l.polling.act timing (.dropTick 0)
          stage := .afterTick t.stage }
      else l
    | _, _ => l
  | .answer n =>
    match l.polling.retests[n]? with
    | some (.done (.ok _)) => if .answered n ∈ l.log then l else l.notify.see [.answered n]
    | _ => l
  | .beside a =>
    if a.isOfTick then l
    else { l with polling := l.polling.act timing a }.see (writings l.polling a)

def run (timing : Timing) (l : Looping σ) (ms : List (LoopMove σ)) : Looping σ :=
  ms.foldl (move timing) l

end

/-! ### Answers that wait for a listing -/

/-- A retest was answered, and since then there was no such event. -/
def Unfollowed (e : LoopEvent) (log : List LoopEvent) : Prop :=
  ∃ n before after, log = before ++ .answered n :: after ∧ e ∉ after

theorem Unfollowed.of_append {e : LoopEvent} {log events : List LoopEvent}
    (h : Unfollowed e (log ++ events)) (hevents : ∀ n, .answered n ∉ events) :
    Unfollowed e log ∧ e ∉ events := by
  obtain ⟨n, before, after, heq, he⟩ := h
  rcases List.append_eq_append_iff.1 heq with ⟨middle, rfl, rfl⟩ | ⟨middle, rfl, hmiddle⟩
  · exact absurd (by simp) (hevents n)
  · cases middle with
    | nil =>
        rw [List.nil_append] at hmiddle
        exact absurd (hmiddle ▸ List.mem_cons_self) (hevents n)
    | cons first middle =>
        rw [List.cons_append] at hmiddle
        obtain ⟨rfl, rfl⟩ := List.cons.inj hmiddle
        rw [List.mem_append, not_or] at he
        exact ⟨⟨n, before, middle, rfl, he.1⟩, he.2⟩

section

variable {σ : Type} {l : Looping σ}

/-- A tick is to come: there is a permit, or the wait is over. -/
def Awaits (l : Looping σ) : Prop := l.permit = true ∨ l.stage.isAwake = true

/-- The tick of the loop has the listing ahead, or it has overflowed. -/
def ListsStill (l : Looping σ) : Prop :=
  l.stage = .ticking ∧ (l.tickStage? = some .enumerate ∨ l.tickStage? = some .overflowed)

/-- A wake-up is not lost where a wait ends in another way. -/
theorem Awaits.leave (h : l.Awaits) (stage : LoopStage) : (l.leave stage).Awaits := by
  obtain ⟨polling, old, permit, log⟩ := l
  cases old with
  | woken => exact .inl rfl
  | turning => exact .inl (h.resolve_right (by simp [LoopStage.isAwake]))
  | waiting => exact .inl (h.resolve_right (by simp [LoopStage.isAwake]))
  | _ => exact h

theorem kept_leave (l : Looping σ) (stage : LoopStage) :
    (l.leave stage).polling = l.polling ∧ (l.leave stage).log = l.log := by
  unfold Looping.leave
  split <;> exact ⟨rfl, rfl⟩

theorem not_answered_of_listings (l : Looping σ) (n : Nat) : .answered n ∉ l.listings := by
  unfold listings
  split <;> simp

/-- Every retest that was answered has its listing ahead still. -/
structure Served (l : Looping σ) : Prop where
  ticks : l.polling.ticks = [] ∨ l.stage = .ticking ∧ ∃ t, l.polling.ticks = [t]
  stopped : l.stage = .stopped → l.polling.shared.stopping = true
  waiting : l.stage = .waiting → l.permit = false
  begun : Unfollowed .began l.log → l.Awaits
  listed : l.polling.shared.stopping = false → Unfollowed .listed l.log →
    l.Awaits ∨ l.ListsStill ∨ l.stage = .failed

theorem served_start (world : σ) : (start world).Served := by
  have hnone (e : LoopEvent) : ¬Unfollowed e (start world).log := by
    rintro ⟨n, before, after, heq, -⟩
    simp [start] at heq
  refine ⟨.inl rfl, ?_, ?_, fun h => absurd h (hnone _), fun _ h => absurd h (hnone _)⟩
  · intro h
    cases h
  · intro h
    cases h

namespace Served

/-- Before a tick begins, only who takes a permit or ends a wait must see to it that a tick is
to come still. -/
theorem turn (h : l.Served) (stage : LoopStage) (permit : Bool) (hwait : l.stage.inWait = true)
    (hstopped : stage = .stopped → l.polling.shared.stopping = true)
    (hwaiting : stage = .waiting → permit = false)
    (hawaits : l.Awaits → permit = true ∨ stage.isAwake = true) :
    Served { l with stage, permit } where
  ticks := by
    refine .inl (h.ticks.resolve_right ?_)
    rintro ⟨hstage, -⟩
    simp [hstage, LoopStage.inWait] at hwait
  stopped := hstopped
  waiting := hwaiting
  begun := fun hasked => hawaits (h.begun hasked)
  listed := by
    intro hgo hasked
    rcases h.listed hgo hasked with hnext | ⟨hstage, -⟩ | hstage
    · exact .inl (hawaits hnext)
    · simp [hstage, LoopStage.inWait] at hwait
    · simp [hstage, LoopStage.inWait] at hwait

theorem leave (h : l.Served) {stage : LoopStage} (hwaiting : stage ≠ .waiting)
    (hstopped : stage = .stopped → l.polling.shared.stopping = true) :
    (l.leave stage).Served := by
  have hturn := h.turn stage
  obtain ⟨polling, old, permit, log⟩ := l
  have hsame (hold : old.isAwake = false) :
      (Looping.mk polling old permit log).Awaits → permit = true ∨ stage.isAwake = true :=
    fun hnext => .inl (hnext.resolve_right (by simp [hold]))
  cases old with
  | turning => exact hturn permit rfl hstopped (fun hw => absurd hw hwaiting) (hsame rfl)
  | waiting => exact hturn permit rfl hstopped (fun hw => absurd hw hwaiting) (hsame rfl)
  | woken => exact hturn true rfl hstopped (fun hw => absurd hw hwaiting) fun _ => .inl rfl
  | _ => exact h

/-- A tick that is not going to list has a permit beside it, if one is asked for. -/
theorem permit_of_ticking (h : l.Served) (hstage : l.stage = .ticking)
    (hgo : l.polling.shared.stopping = false) (hasked : Unfollowed .listed l.log)
    (hlists : ¬l.ListsStill) : l.permit = true := by
  rcases h.listed hgo hasked with (hpermit | hawake) | hstill | hfailed
  · exact hpermit
  · simp [hstage, LoopStage.isAwake] at hawake
  · exact absurd hstill hlists
  · simp [hstage] at hfailed

theorem permit_of_begun (h : l.Served) (hstage : l.stage = .ticking)
    (hasked : Unfollowed .began l.log) : l.permit = true :=
  (h.begun hasked).resolve_right (by simp [hstage, LoopStage.isAwake])

end Served

variable [Store σ]

theorem exists_of_mem_writings {p : Polling σ} {a : Action σ} {e : LoopEvent}
    (h : e ∈ writings p a) : ∃ n now r, a = .stepRetest n now ∧ p.retests[n]? = some r ∧
      e = .wrote n ∧ (r.step now p.shared.world).2.2 ≠ [] := by
  cases a with
  | stepRetest n now =>
      simp only [writings] at h
      split at h
      · cases h
      · next r hr =>
        obtain ⟨m, hm, rfl⟩ := List.mem_map.1 h
        exact ⟨n, now, r, rfl, hr, rfl, List.ne_nil_of_mem hm⟩
  | _ => cases h

theorem not_answered_of_writings (p : Polling σ) (a : Action σ) (n : Nat) :
    .answered n ∉ writings p a := by
  intro h
  obtain ⟨_, _, _, -, -, heq, -⟩ := exists_of_mem_writings h
  cases heq

variable [Directory σ] [Exporter σ] {timing : Timing}

theorem ticks_act (timing : Timing) {a : Action σ} (ha : a.isOfTick = false) (p : Polling σ) :
    (p.act timing a).ticks = p.ticks := by
  cases a with
  | startTick now => cases ha
  | stepTick n => cases ha
  | dropTick n => cases ha
  | beginCheck n program now =>
      simp only [Polling.act]
      split <;> rfl
  | endCheck n waits now =>
      simp only [Polling.act]
      split <;> rfl
  | effect n now =>
      simp only [Polling.act]
      split <;> rfl
  | dropTask n =>
      simp only [Polling.act]
      split <;> rfl
  | stepRetest n now =>
      simp only [Polling.act]
      split <;> rfl
  | _ => rfl

/-- A tick that starts has the listing ahead, unless the scheduler is stopping. -/
theorem stage_start (timing : Timing) (now : Time) :
    (Tick.start timing now false).stage = .enumerate ∨
      (Tick.start timing now false).stage = .overflowed := by
  simp only [Tick.start, Bool.false_eq_true, if_false]
  split
  · exact .inr rfl
  · exact .inl rfl

namespace Served

theorem poll (h : l.Served) : (l.move timing .poll).Served := by
  have hturn := h.turn
  obtain ⟨polling, stage, permit, log⟩ := l
  cases stage with
  | turning =>
      cases permit with
      | true => exact hturn .leaving false rfl (by simp) (by simp) fun _ => .inr rfl
      | false =>
          exact hturn .waiting false rfl (by simp) (fun _ => rfl)
            (by simp [Awaits, LoopStage.isAwake])
  | woken => exact hturn .leaving permit rfl (by simp) (by simp) fun _ => .inr rfl
  | _ => exact h

theorem beginTick (h : l.Served) (now : Time) : (l.move timing (.beginTick now)).Served := by
  obtain ⟨polling, stage, permit, log⟩ := l
  cases stage with
  | leaving =>
      have hnone : polling.ticks = [] := h.ticks.resolve_right (by simp)
      have hticks : (polling.act timing (.startTick now)).ticks =
          [Tick.start timing now polling.shared.stopping] := by
        rw [Polling.act, hnone, List.nil_append]
      refine ⟨.inr ⟨rfl, _, hticks⟩, by simp [move, see], by simp [move, see], ?_, ?_⟩
      · intro hasked
        exact absurd (hasked.of_append (by simp)).2 (by simp)
      · intro hgo _
        have hgo : polling.shared.stopping = false := hgo
        refine .inr (.inl ⟨rfl, ?_⟩)
        simp only [move, see, tickStage?, hticks, hgo, List.head?_cons, Option.map_some,
          Option.some.injEq]
        exact stage_start timing now
  | _ => exact h

theorem stepTick (h : l.Served) : (l.move timing .stepTick).Served := by
  by_cases hstage : l.stage = .ticking
  · have hmove : l.move timing .stepTick =
        { l with polling := l.polling.act timing (.stepTick 0) }.see l.listings := by
      simp only [move, hstage]
    have hlisted {e : LoopEvent} (hasked : Unfollowed e (l.log ++ l.listings)) :=
      hasked.of_append (not_answered_of_listings l)
    rw [hmove]
    refine ⟨?_, by simp [see, hstage], by simp [see, hstage], ?_, ?_⟩
    · rcases h.ticks with hnone | ⟨-, t, ht⟩
      · left
        simp [see, Polling.act, hnone]
      · right
        refine ⟨hstage, (t.step timing l.polling.shared).1, ?_⟩
        simp [see, Polling.act, ht]
    · intro hasked
      exact .inl (h.permit_of_begun hstage (hlisted hasked).1)
    · intro hgo hasked
      obtain ⟨hbefore, hnot⟩ := hlisted hasked
      have hgo := Polling.stopping_of_act hgo
      by_cases hlists : l.ListsStill
      · -- The tick has overflowed, since otherwise it would have been seen to list.
        have hover : l.tickStage? = some .overflowed := by
          refine hlists.2.resolve_left fun hfirst => hnot ?_
          simp [listings, hfirst]
        obtain ⟨t, ht, hstage'⟩ := Option.map_eq_some_iff.1 hover
        rw [List.head?_eq_getElem?] at ht
        have hsame : l.polling.act timing (.stepTick 0) = l.polling :=
          Polling.act_stepTick_of_over ht (by simp only [Tick.isOver, hstage'])
        refine .inr (.inl ⟨hstage, .inr ?_⟩)
        simp only [see, tickStage?, hsame]
        exact hover
      · exact .inl (.inl (h.permit_of_ticking hstage hgo hbefore hlists))
  · have hmove : l.move timing .stepTick = l := by
      cases hother : l.stage <;> simp_all [move]
    rw [hmove]
    exact h

theorem endTick (h : l.Served) : (l.move timing .endTick).Served := by
  simp only [Looping.move]
  split
  · next t rest hstage hticks =>
    split
    · next hover =>
      have hrest : rest = [] := by
        rcases h.ticks with hnone | ⟨-, u, hu⟩
        · rw [hticks] at hnone
          cases hnone
        · rw [hticks] at hu
          exact (List.cons.inj hu).2
      have hdropped : (l.polling.act timing (.dropTick 0)).ticks = [] := by
        simp [Polling.act, hticks, hrest]
      refine ⟨.inl hdropped, ?_, ?_, fun hasked => .inl (h.permit_of_begun hstage hasked), ?_⟩
      · unfold LoopStage.afterTick
        split <;> simp
      · unfold LoopStage.afterTick
        split <;> simp
      · intro hgo hasked
        have hgo := Polling.stopping_of_act hgo
        cases hend : t.stage with
        | overflowed => exact .inr (.inr rfl)
        | done =>
            refine .inl (.inl (h.permit_of_ticking hstage hgo hasked ?_))
            simp [ListsStill, tickStage?, hticks, hend]
        | _ => simp [Tick.isOver, hend] at hover
    · exact h
  · exact h

theorem answer (h : l.Served) (n : Nat) : (l.move timing (.answer n)).Served := by
  have hnotified : (l.notify.see [.answered n]).Served := by
    obtain ⟨polling, stage, permit, log⟩ := l
    cases stage with
    | waiting =>
        exact ⟨.inl (h.ticks.resolve_right (by simp)), nofun, nofun, fun _ => .inr rfl,
          fun _ _ => .inl (.inr rfl)⟩
    | _ =>
        exact ⟨h.ticks, h.stopped, nofun, fun _ => .inl rfl, fun _ _ => .inl (.inl rfl)⟩
  simp only [move]
  split
  · split
    · exact h
    · exact hnotified
  · exact h

theorem beside (h : l.Served) (a : Action σ) : (l.move timing (.beside a)).Served := by
  cases ha : a.isOfTick with
  | true =>
      simp only [move, ha, if_true]
      exact h
  | false =>
      have hticks := ticks_act timing ha l.polling
      have hseen {e : LoopEvent} (hasked : Unfollowed e (l.log ++ writings l.polling a)) :=
        (hasked.of_append (not_answered_of_writings l.polling a)).1
      simp only [move, ha, Bool.false_eq_true, if_false]
      refine ⟨?_, ?_, h.waiting, fun hasked => h.begun (hseen hasked), ?_⟩
      · rw [see, hticks]
        exact h.ticks
      · exact fun hstage => Polling.stopping_act timing (h.stopped hstage) a
      · intro hgo hasked
        have hgo := Polling.stopping_of_act hgo
        refine (h.listed hgo (hseen hasked)).imp_right fun hlater =>
          hlater.imp_left fun hlists => ?_
        refine ⟨hlists.1, ?_⟩
        simp only [see, tickStage?, hticks]
        exact hlists.2

theorem move (h : l.Served) (m : LoopMove σ) : (l.move timing m).Served := by
  cases m with
  | poll => exact h.poll
  | fire => exact h.leave nofun nofun
  | stop =>
      simp only [Looping.move]
      split
      · next hstop => exact h.leave nofun fun _ => hstop
      · exact h
  | beginTick now => exact h.beginTick now
  | stepTick => exact h.stepTick
  | endTick => exact h.endTick
  | answer n => exact h.answer n
  | beside a => exact h.beside a

theorem run (h : l.Served) (ms : List (LoopMove σ)) : (l.run timing ms).Served := by
  induction ms generalizing l with
  | nil => exact h
  | cons m ms ih => exact ih (h.move m)

end Served

/-! ### Answers of retests -/

/-- What was answered stays answered. -/
theorem retests_act (timing : Timing) {p : Polling σ} {n : Nat} {r : Except RetestError Nat}
    (h : p.retests[n]? = some (.done r)) (a : Action σ) :
    (p.act timing a).retests[n]? = some (.done r) := by
  have hlt := (List.getElem?_eq_some_iff.1 h).1
  cases a with
  | startRetest id => exact (List.getElem?_append_left hlt).trans h
  | startRetestAll => exact (List.getElem?_append_left hlt).trans h
  | stepRetest m now =>
      simp only [Polling.act]
      split
      · exact h
      · next t ht =>
        by_cases heq : m = n
        · subst heq
          rw [h] at ht
          cases ht
          exact List.getElem?_set_self hlt
        · exact (List.getElem?_set_ne heq).trans h
  | stepTick m =>
      simp only [Polling.act]
      split <;> exact h
  | dropTick m =>
      simp only [Polling.act]
      split <;> exact h
  | beginCheck m program now =>
      simp only [Polling.act]
      split <;> exact h
  | endCheck m waits now =>
      simp only [Polling.act]
      split <;> exact h
  | effect m now =>
      simp only [Polling.act]
      split <;> exact h
  | dropTask m =>
      simp only [Polling.act]
      split <;> exact h
  | startTick now => exact h
  | shutDown => exact h
  | outside change => exact h

/-- A retest that was answered has come to its end, and it has written nothing since. -/
structure Answered (l : Looping σ) : Prop where
  done : ∀ n, .answered n ∈ l.log → ∃ count, l.polling.retests[n]? = some (.done (.ok count))
  writes : l.log.Pairwise fun e f => ∀ n, e = .answered n → f ≠ .wrote n

namespace Answered

omit [Store σ] [Directory σ] [Exporter σ] in
theorem see (h : l.Answered) {k : Looping σ} (events : List LoopEvent)
    (hdone : ∀ (n : Nat) (r : Except RetestError Nat),
      l.polling.retests[n]? = some (.done r) → k.polling.retests[n]? = some (.done r))
    (hlog : k.log = l.log ++ events)
    (hanswered : ∀ n, .answered n ∈ events →
      ∃ count, l.polling.retests[n]? = some (.done (.ok count)))
    (hwrites : ∀ n, .wrote n ∈ events → .answered n ∉ l.log)
    (hevents : events.Pairwise fun e f => ∀ n, e = .answered n → f ≠ .wrote n) :
    k.Answered where
  done := by
    intro n hn
    rw [hlog, List.mem_append] at hn
    obtain ⟨count, hcount⟩ := hn.elim (h.done n) (hanswered n)
    exact ⟨count, hdone n _ hcount⟩
  writes := by
    rw [hlog, List.pairwise_append]
    refine ⟨h.writes, hevents, ?_⟩
    rintro e he f hf n rfl rfl
    exact hwrites n hf he

omit [Store σ] [Directory σ] [Exporter σ] in
theorem same (h : l.Answered) {k : Looping σ}
    (hdone : ∀ (n : Nat) (r : Except RetestError Nat),
      l.polling.retests[n]? = some (.done r) → k.polling.retests[n]? = some (.done r))
    (hlog : k.log = l.log) : k.Answered :=
  h.see [] hdone (hlog.trans (List.append_nil _).symm) (by simp) (by simp) .nil

omit [Store σ] [Directory σ] [Exporter σ] in
theorem answer (h : l.Answered) {n count : Nat}
    (hcount : l.polling.retests[n]? = some (.done (.ok count))) :
    (l.notify.see [.answered n]).Answered := by
  obtain ⟨hpolling, hlog⟩ : l.notify.polling = l.polling ∧ l.notify.log = l.log := by
    unfold notify
    split <;> exact ⟨rfl, rfl⟩
  refine h.see [.answered n] ?_ ?_ ?_ (by simp) (List.pairwise_singleton _ _)
  · intro m r hr
    rw [Looping.see, hpolling]
    exact hr
  · rw [Looping.see, hlog]
  · intro m hm
    cases List.mem_singleton.1 hm
    exact ⟨count, hcount⟩

theorem beside (h : l.Answered) (a : Action σ) :
    ({ l with polling := l.polling.act timing a }.see (writings l.polling a)).Answered := by
  refine h.see _ (fun n r hr => retests_act timing hr a) rfl ?_ ?_ ?_
  · exact fun n hn => absurd hn (not_answered_of_writings l.polling a n)
  · -- A retest that was answered has no write left.
    intro n hn hanswered
    obtain ⟨m, now, r, rfl, hr, heq, hwrote⟩ := exists_of_mem_writings hn
    cases heq
    obtain ⟨count, hcount⟩ := h.done n hanswered
    rw [hcount] at hr
    cases hr
    exact hwrote rfl
  · refine List.pairwise_of_forall_mem_list fun e he f _ n heq => ?_
    exact absurd (heq ▸ he) (not_answered_of_writings l.polling a n)

theorem move (h : l.Answered) (m : LoopMove σ) : (l.move timing m).Answered := by
  have hleave (stage : LoopStage) : (l.leave stage).Answered := by
    refine h.same (fun n r hr => ?_) (kept_leave l stage).2
    rw [(kept_leave l stage).1, hr]
  cases m with
  | poll =>
      simp only [Looping.move]
      split <;> exact h.same (fun _ _ => id) rfl
  | fire => exact hleave .leaving
  | stop =>
      simp only [Looping.move]
      split
      · exact hleave .stopped
      · exact h
  | beginTick now =>
      simp only [Looping.move]
      split
      · exact h.see [.began] (fun _ _ => id) rfl (by simp) (by simp) (List.pairwise_singleton _ _)
      · exact h
  | stepTick =>
      simp only [Looping.move]
      split
      · have hlistings : l.listings = [.listed] ∨ l.listings = [] := by
          unfold listings
          split
          · exact .inl rfl
          · exact .inr rfl
        refine h.see l.listings (fun _ _ hr => retests_act timing hr _) rfl ?_ ?_ ?_ <;>
          rcases hlistings with hlistings | hlistings <;> simp [hlistings]
      · exact h
  | endTick =>
      simp only [Looping.move]
      split
      · split
        · exact h.same (fun _ _ hr => retests_act timing hr _) rfl
        · exact h
      · exact h
  | answer n =>
      simp only [Looping.move]
      split
      · next count hcount =>
        split
        · exact h
        · exact h.answer hcount
      · exact h
  | beside a =>
      simp only [Looping.move]
      split
      · exact h
      · exact h.beside a

theorem run (h : l.Answered) (ms : List (LoopMove σ)) : (l.run timing ms).Answered := by
  induction ms generalizing l with
  | nil => exact h
  | cons m ms ih => exact ih (h.move m)

end Answered

/-! ### No wake-up is lost -/

/-- In the wait for its timer the loop owes no listing to a retest that was answered. Before
that, while there was no tick since the answer, a tick is to come; and once the wait is over
the loop goes on to begin it. -/
structure KeepsWakeUps (timing : Timing) (l : Looping σ) : Prop where
  awaits : Unfollowed .began l.log → l.permit = true ∨ l.stage.isAwake = true
  begins : l.stage.isAwake = true → l.polling.shared.stopping = false → ∀ m,
    (l.move timing m).stage.isAwake = true ∨
      (l.move timing m).stage = .ticking ∧ (l.move timing m).log = l.log ++ [.began]
  waits : l.polling.shared.stopping = false →
    l.stage = .waiting ∨ l.stage = .turning ∧ l.permit = false → ¬Unfollowed .listed l.log
  writes : l.log.Pairwise fun e f => ∀ n, e = .answered n → f ≠ .wrote n

theorem move_of_isAwake (timing : Timing) (h : l.stage.isAwake = true)
    (hgo : l.polling.shared.stopping = false) (m : LoopMove σ) :
    (l.move timing m).stage.isAwake = true ∨
      (l.move timing m).stage = .ticking ∧ (l.move timing m).log = l.log ++ [.began] := by
  obtain ⟨polling, stage, permit, log⟩ := l
  cases m with
  | stop =>
      have hgo : polling.shared.stopping = false := hgo
      simp only [Looping.move, hgo, Bool.false_eq_true, if_false]
      exact .inl h
  | answer n =>
      simp only [Looping.move]
      split
      · split
        · exact .inl h
        · cases stage <;> first | exact .inl h | cases h
      · exact .inl h
  | beside a =>
      simp only [Looping.move]
      split <;> exact .inl h
  | beginTick now =>
      cases stage with
      | leaving => exact .inr ⟨rfl, rfl⟩
      | _ => exact .inl h
  | poll => cases stage <;> first | exact .inl rfl | cases h
  | fire => cases stage <;> first | exact .inl rfl | cases h
  | stepTick => cases stage <;> first | exact .inl rfl | cases h
  | endTick =>
      cases stage <;> first | exact .inl rfl | cases h

/-- Whatever retests and the loop do in whatever order, no wake-up is lost. -/
theorem keeps_wakeUps (timing : Timing) (world : σ) (ms : List (LoopMove σ)) :
    ((start world).run timing ms).KeepsWakeUps timing := by
  have hserved : ((start world).run timing ms).Served := (served_start world).run ms
  have hanswered : ((start world).run timing ms).Answered :=
    Answered.run ⟨by simp [start], .nil⟩ ms
  refine ⟨hserved.begun, move_of_isAwake timing, ?_, hanswered.writes⟩
  intro hgo hwait hasked
  have hpermit : ((start world).run timing ms).permit = false :=
    hwait.elim hserved.waiting And.right
  rcases hserved.listed hgo hasked with (hnext | hawake) | ⟨hticking, -⟩ | hfailed
  · rw [hpermit] at hnext
    cases hnext
  · rcases hwait with hstage | ⟨hstage, -⟩ <;> simp [hstage, LoopStage.isAwake] at hawake
  · rcases hwait with hstage | ⟨hstage, -⟩ <;> simp [hstage] at hticking
  · rcases hwait with hstage | ⟨hstage, -⟩ <;> simp [hstage] at hfailed

end

end Looping

end Vigil
