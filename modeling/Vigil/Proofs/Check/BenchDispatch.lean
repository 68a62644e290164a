import Vigil.Proofs.Check.Readings
import Vigil.Simulation.Bench

/-!
# A dispatch that is alone on a bench

A bench polls a dispatch and moves its clock from one timer to the next until the dispatch is
over. If nothing else is under way there, this comes to the same as `Task.dispatch`, which says at
once what the probe does in its budget: each poll brings the check closer to a conclusion that
stays the same all along.
-/

namespace Vigil

/-- A bound of the waits of a program whose gates stay closed. -/
def Program.waits : Program → Nat
  | finish _ => 0
  | edit _ rest => rest.waits
  | sleep _ rest => rest.waits + 1
  | await _ => 1

/-- Whether the clock comes to the end of all sleeps of a program. -/
def Program.InReach : Program → Prop
  | finish _ => True
  | edit _ rest => rest.InReach
  | sleep d rest => d.seconds < Duration.timerLimit ∧ rest.InReach
  | await _ => True

/-- The moments that a wait may be over at. -/
def Wait.moments : Wait → List Nat
  | ready => []
  | delayed limit => [limit]
  | sleeping limit deadline => [limit, deadline]
  | atGate _ deadline => [deadline]

/-- A dispatch that waits in its check, which will come to a conclusion after some more waits. -/
inductive Actor.Checks (t : Task) (c : Conclusion) : Nat → Actor → Prop
  | sleeping {m : Readings} {p : Program} {budget : Duration} {limit deadline : Nat}
      (reach : p.InReach)
      (comes : (if limit ≤ deadline then p.run budget (deadline - limit) m
        else .overran budget m) = c) :
      Checks t c (p.waits + 1) ⟨t.goTo (.checking m p budget), .sleeping limit deadline⟩
  | atGate {m : Readings} {p : Program} {budget : Duration} {ticket deadline : Nat}
      (comes : .overran budget m = c) :
      Checks t c 1 ⟨t.goTo (.checking m p budget), .atGate ticket deadline⟩

theorem Actor.Checks.of_goTo {t : Task} {phase : Phase} {c : Conclusion} {k : Nat} {a : Actor}
    (h : a.Checks (t.goTo phase) c k) : a.Checks t c k := by
  cases h with
  | sleeping reach comes => exact .sleeping reach comes
  | atGate comes => exact .atGate comes

namespace Bench

variable {σ ω : Type} [Store σ] [Directory σ] [Listing σ]
variable {b : Bench σ ω} {t : Task} {c : Conclusion} {r : Task × Shared (World σ)}

omit [Store σ] [Directory σ] [Listing σ] in
theorem after_of_lt (b : Bench σ ω) {d : Duration} (h : d.seconds < Duration.timerLimit) :
    b.after d = b.clock + d.nanos :=
  if_pos h

/-! ### Polls -/

omit [Listing σ] in
/-- A probe at work comes to the end of its check, or it waits and is as far from its conclusion as
before. -/
theorem work_cases (b : Bench σ ω) (t : Task) (m : Readings) {p : Program} (hp : p.InReach)
    (budget : Duration) {deadline : Nat} (hle : b.clock ≤ deadline) :
    b.work t m p budget deadline =
        (b.conclude t (p.run budget (deadline - b.clock) m), none) ∨
      ∃ tickets k a, b.work t m p budget deadline = ({ b with tickets }, some a) ∧
        k ≤ p.waits ∧ a.Checks t (p.run budget (deadline - b.clock) m) k ∧
          ∀ moment ∈ a.wait.moments, b.clock ≤ moment := by
  induction p generalizing m with
  | finish e => exact .inl rfl
  | edit e rest ih => exact ih (e.apply m) hp
  | sleep d rest =>
      obtain ⟨hd, hrest⟩ := hp
      have hafter := b.after_of_lt hd
      refine .inr ⟨b.tickets, rest.waits + 1, _, rfl, Nat.le_refl _, .sleeping hrest ?_, ?_⟩
      · rw [hafter, Program.run, Nat.sub_sub]
        by_cases hd : d.nanos ≤ deadline - b.clock
        · rw [if_pos hd, if_pos (by omega)]
        · rw [if_neg hd, if_neg (by omega)]
      · intro moment hmoment
        simp only [Wait.moments, hafter, List.mem_cons, List.not_mem_nil, or_false] at hmoment
        omega
  | await rest =>
      refine .inr ⟨b.tickets + 1, 1, _, rfl, Nat.le_refl _, .atGate rfl, ?_⟩
      intro moment hmoment
      rw [List.mem_singleton.1 hmoment]
      exact hle

omit [Listing σ] in
theorem poll_sleeping (b : Bench σ ω) (t : Task) (m : Readings) (p : Program) (budget : Duration)
    (limit deadline : Nat) :
    b.poll ⟨t.goTo (.checking m p budget), .sleeping limit deadline⟩ =
      if limit ≤ b.clock then some (b.work (t.goTo (.checking m p budget)) m p budget deadline)
      else if deadline ≤ b.clock then some (b.conclude t (.overran budget m), none)
      else none := rfl

omit [Listing σ] in
theorem poll_atGate (b : Bench σ ω) (t : Task) (m : Readings) (p : Program) (budget : Duration)
    (ticket deadline : Nat) (hgate : b.permits.contains t.item.id = false) :
    b.poll ⟨t.goTo (.checking m p budget), .atGate ticket deadline⟩ =
      if deadline ≤ b.clock then some (b.conclude t (.overran budget m), none) else none := by
  have hclosed : ¬(b.permits.contains t.item.id && b.isNext t.item.id ticket) = true := by
    rw [hgate]
    exact Bool.false_ne_true
  exact if_neg hclosed

omit [Listing σ] in
/-- A poll of a dispatch that waits in its check. Only a poll at one of the moments of the wait
lets it go on. -/
theorem poll_cases {k : Nat} {a : Actor} (ha : a.Checks t c k)
    (hgate : b.permits.contains t.item.id = false)
    (hahead : ∀ moment ∈ a.wait.moments, b.clock ≤ moment) :
    (b.poll a = none ∧ b.clock ∉ a.wait.moments) ∨
      b.poll a = some (b.conclude t c, none) ∨
        ∃ tickets, ∃ j < k, ∃ u, b.poll a = some ({ b with tickets }, some u) ∧
          u.Checks t c j ∧ ∀ moment ∈ u.wait.moments, b.clock ≤ moment := by
  cases ha with
  | @sleeping m p budget limit deadline hreach hcomes =>
      have hlimit : b.clock ≤ limit := hahead _ (by simp [Wait.moments])
      have hdeadline : b.clock ≤ deadline := hahead _ (by simp [Wait.moments])
      by_cases hover : limit ≤ b.clock
      · obtain rfl : limit = b.clock := Nat.le_antisymm hover hlimit
        rw [if_pos hdeadline] at hcomes
        rw [poll_sleeping, if_pos hover]
        rcases b.work_cases (t.goTo (.checking m p budget)) m hreach budget hdeadline with
          hwork | ⟨tickets, j, u, hwork, hj, hu, hmoments⟩
        · rw [hcomes] at hwork
          exact .inr (.inl (congrArg some hwork))
        · rw [hcomes] at hu
          have hlt : j < p.waits + 1 := Nat.lt_succ_of_le hj
          exact .inr (.inr ⟨tickets, j, hlt, u, congrArg some hwork, hu.of_goTo, hmoments⟩)
      · rw [poll_sleeping, if_neg hover]
        by_cases hlate : deadline ≤ b.clock
        · rw [if_neg (by omega)] at hcomes
          rw [if_pos hlate, ← hcomes]
          exact .inr (.inl rfl)
        · rw [if_neg hlate]
          refine .inl ⟨rfl, ?_⟩
          simp only [Wait.moments, List.mem_cons, List.not_mem_nil, or_false]
          omega
  | @atGate m p budget ticket deadline hcomes =>
      have hdeadline : b.clock ≤ deadline := hahead _ (by simp [Wait.moments])
      rw [b.poll_atGate t m p budget ticket deadline hgate]
      by_cases hlate : deadline ≤ b.clock
      · rw [if_pos hlate, ← hcomes]
        exact .inr (.inl rfl)
      · rw [if_neg hlate]
        refine .inl ⟨rfl, ?_⟩
        simp only [Wait.moments, List.mem_singleton]
        omega

/-! ### Moments -/

/-- The dispatch that was alone on the bench is over. -/
structure Ended (b : Bench σ ω) (r : Task × Shared (World σ)) : Prop where
  actors : b.actors = []
  loop : b.loop = .absent
  report : ∃ report, r.1.phase = .over report ∧ b.direct = some report
  shared : b.shared = r.2

/-- A dispatch is alone on the bench, and waits in its check. -/
structure Alone (b : Bench σ ω) (r : Task × Shared (World σ)) (k : Nat) : Prop where
  loop : b.loop = .absent
  direct : b.direct = none
  actor : ∃ t c a, b.actors = [a] ∧ a.Checks t c k ∧ t.claim = none ∧
    b.permits.contains t.item.id = false ∧ (t.conclude c b.wall).record b.wall b.shared = r
  ahead : ∀ moment ∈ b.timers, b.clock ≤ moment

omit [Store σ] [Directory σ] [Listing σ] in
theorem timers_of_single {a : Actor} (hactors : b.actors = [a]) (hloop : b.loop = .absent) :
    b.timers = a.wait.moments := by
  unfold timers
  rw [hactors, hloop, List.append_nil, List.flatMap_singleton]
  cases a.wait <;> rfl

omit [Listing σ] in
theorem alone_of_checks {k : Nat} {a : Actor} (hloop : b.loop = .absent) (hdirect : b.direct = none)
    (ha : a.Checks t c k) (hclaim : t.claim = none) (hgate : b.permits.contains t.item.id = false)
    (hr : (t.conclude c b.wall).record b.wall b.shared = r)
    (hahead : ∀ moment ∈ a.wait.moments, b.clock ≤ moment) :
    Alone { b with actors := [a] } r k := by
  refine ⟨hloop, hdirect, ⟨t, c, a, rfl, ha, hclaim, hgate, hr⟩, fun moment hmoment => ?_⟩
  rw [timers_of_single (b := { b with actors := [a] }) rfl hloop] at hmoment
  exact hahead moment hmoment

omit [Listing σ] in
theorem pollActors_of_single {a : Actor} (hactors : b.actors = [a]) :
    b.pollActors b.actors [] false = match b.poll a with
      | none => (b, false)
      | some (b, none) => ({ b with actors := [] }, true)
      | some (b, some u) => ({ b with actors := [u] }, true) := by
  have hself : { b with actors := [] ++ [a] } = b := by rw [List.nil_append, ← hactors]
  rw [hactors, pollActors, hself]
  rcases b.poll a with _ | ⟨k, _ | u⟩
  · simp only [pollActors, List.nil_append, ← hactors]
  · rfl
  · rfl

theorem settle_of_went {fuel : Nat} {k : Bench σ ω}
    (hpoll : b.pollActors b.actors [] false = (k, true)) (hloop : k.loop = .absent) :
    b.settle (fuel + 1) = k.settle fuel := by
  simp [settle, hpoll, pollLoop, hloop]

theorem settle_of_not_went {fuel : Nat} {k : Bench σ ω}
    (hpoll : b.pollActors b.actors [] false = (k, false)) (hloop : k.loop = .absent) :
    b.settle (fuel + 1) = k := by
  simp [settle, hpoll, pollLoop, hloop]

omit [Listing σ] in
theorem ended_finish (hloop : b.loop = .absent) (hclaim : t.claim = none) {report : Option Report}
    (hover : (t.record b.wall b.shared).1.phase = .over report) :
    Ended { b.finish t with actors := [] } (t.record b.wall b.shared) := by
  obtain ⟨item, claim, phase⟩ := t
  subst hclaim
  cases phase with
  | recording found es own => exact ⟨rfl, hloop, ⟨_, rfl, rfl⟩, rfl⟩
  | delayed delay => cases hover
  | checking m p budget => cases hover
  | _ => exact ⟨rfl, hloop, ⟨_, rfl, rfl⟩, rfl⟩

omit [Listing σ] in
theorem ended_conclude (hloop : b.loop = .absent) (hclaim : t.claim = none) (c : Conclusion) :
    Ended { b.conclude t c with actors := [] }
      ((t.conclude c b.wall).record b.wall b.shared) :=
  ended_finish (b := b.note (c.lines t.item)) hloop hclaim rfl

theorem settle_of_ended {fuel : Nat} (h : b.Ended r) : b.settle fuel = b := by
  cases fuel with
  | zero => rfl
  | succ fuel =>
      have hpoll : b.pollActors b.actors [] false = (b, false) := by
        rw [h.actors, pollActors, ← h.actors]
      exact settle_of_not_went hpoll h.loop

/-- What goes on at a moment ends the dispatch, or brings it to a wait for a later moment. If it
goes on at all, it has fewer waits left. -/
theorem settle_cases (fuel : Nat) {k : Nat} (h : b.Alone r k) (hfuel : k ≤ fuel) :
    (b.settle fuel).Ended r ∨
      ∃ j, (b.settle fuel).Alone r j ∧ (b.settle fuel).clock ∉ (b.settle fuel).timers ∧
        j ≤ k ∧ (b.clock ∈ b.timers → j < k) := by
  induction fuel generalizing b k with
  | zero =>
      obtain ⟨t, c, a, -, ha, -⟩ := h.actor
      cases ha <;> omega
  | succ fuel ih =>
      obtain ⟨t, c, a, hactors, ha, hclaim, hgate, hr⟩ := h.actor
      have htimers := timers_of_single hactors h.loop
      have hahead := h.ahead
      rw [htimers] at hahead
      have hpolled := pollActors_of_single hactors
      rcases poll_cases ha hgate hahead with
        ⟨hpoll, hlater⟩ | hpoll | ⟨tickets, j, hj, u, hpoll, hu, hmoments⟩
      · rw [hpoll] at hpolled
        rw [settle_of_not_went hpolled h.loop]
        rw [← htimers] at hlater
        exact .inr ⟨k, h, hlater, Nat.le_refl _, fun hin => absurd hin hlater⟩
      · rw [hpoll] at hpolled
        have hended : Ended { b.conclude t c with actors := [] } r :=
          hr ▸ ended_conclude h.loop hclaim c
        rw [settle_of_went hpolled hended.loop, settle_of_ended hended]
        exact .inl hended
      · rw [hpoll] at hpolled
        have halone : Alone { b with tickets, actors := [u] } r j :=
          alone_of_checks (b := { b with tickets }) h.loop h.direct hu hclaim hgate hr hmoments
        rw [settle_of_went hpolled halone.loop]
        rcases ih halone (by omega) with hended | ⟨i, hi, hlater, hle, -⟩
        · exact .inl hended
        · exact .inr ⟨i, hi, hlater, by omega, fun _ => by omega⟩

/-- The clock goes from timer to timer until the dispatch is over. -/
theorem ended_waitUntil {fuel k : Nat} (hfuel : k < fuel) (hrounds : k ≤ rounds)
    (h : (b.settle rounds).Ended r ∨ ∃ j ≤ k, (b.settle rounds).Alone r j ∧
      (b.settle rounds).clock ∉ (b.settle rounds).timers) :
    (b.waitUntil (·.direct.isSome) [] fuel).Ended r := by
  induction fuel generalizing b k with
  | zero => omega
  | succ fuel ih =>
      rw [waitUntil]
      generalize b.settle rounds = s at h
      rcases h with hended | ⟨j, hj, halone, hlater⟩
      · obtain ⟨report, -, hdirect⟩ := hended.report
        rw [if_pos (by rw [hdirect]; rfl)]
        exact hended
      · obtain ⟨t, c, a, hactors, ha, hrest⟩ := halone.actor
        have hahead : s.timers.filter (s.clock < ·) = s.timers :=
          List.filter_eq_self.2 fun moment hmoment => by
            have hle := halone.ahead moment hmoment
            have hne : s.clock ≠ moment := fun heq => hlater (heq ▸ hmoment)
            simp only [decide_eq_true_eq]
            omega
        have htimers := timers_of_single hactors halone.loop
        obtain ⟨moment, hmoment⟩ : ∃ moment, s.timers.min? = some moment := by
          rw [htimers]
          cases ha <;> exact ⟨_, rfl⟩
        obtain ⟨hmem, hmin⟩ := List.min?_eq_some_iff.1 hmoment
        have hmoved : Alone { s with clock := moment } r j :=
          ⟨halone.loop, halone.direct, ⟨t, c, a, hactors, ha, hrest⟩, hmin⟩
        have hopen : ¬s.direct.isSome = true := by
          rw [halone.direct]
          exact Bool.false_ne_true
        rw [if_neg hopen, List.nil_append, hahead, hmoment]
        have hpos : 0 < j := by cases ha <;> omega
        refine ih (k := j - 1) (by omega) (by omega) ?_
        rcases settle_cases rounds hmoved (by omega) with
          hended | ⟨i, hi, hlater, -, hlt⟩
        · exact .inl hended
        · have hlt := hlt hmem
          exact .inr ⟨i, by omega, hi, hlater⟩

/-! ### Dispatches -/

/-- What the probe of an item does that is started now. -/
def program? (b : Bench σ ω) (item : Item) : Option Program :=
  (b.probe item).map fun run => (run b.outside).1

omit [Listing σ] in
/-- A dispatch that begins is over at once or waits in its check. -/
theorem begin_cases {item : Item} (hloop : b.loop = .absent) (hdirect : b.direct = none)
    (hgate : b.permits.contains item.id = false)
    (hreach : ∀ p, b.program? item = some p → p.InReach)
    (hbudget : ∀ budget, item.settings.budget? b.timing.budgetGrace = some budget →
      budget.seconds < Duration.timerLimit)
    (hr : r = Task.dispatch b.timing.budgetGrace item (b.program? item) b.wall b.shared) :
    (∃ k, b.begin (.direct item) = (k, none) ∧ Ended { k with actors := [] } r) ∨
      ∃ k u p waits, b.begin (.direct item) = (k, some u) ∧ Alone { k with actors := [u] } r waits ∧
        b.program? item = some p ∧ waits ≤ p.waits := by
  have hown : (Task.direct item).item = item := rfl
  cases hprobe : b.probe item with
  | none =>
      have hprogram : b.program? item = none := by rw [program?, hprobe, Option.map_none]
      have hbegin : b.begin (.direct item) =
          (b.conclude (.direct item) .unknownProbe, none) := by
        simp only [begin, hown, hprobe]
        rfl
      have hcomes : r =
          ((Task.direct item).conclude .unknownProbe b.wall).record b.wall b.shared := by
        rw [hr, hprogram]
        rfl
      refine .inl ⟨_, hbegin, ?_⟩
      rw [hcomes]
      exact ended_conclude hloop rfl .unknownProbe
  | some run =>
      have hprogram : b.program? item = some (run b.outside).1 := by
        rw [program?, hprobe, Option.map_some]
      rw [hprogram] at hr
      cases hitem : item.settings.budget? b.timing.budgetGrace with
      | none =>
          have hbegin : b.begin (.direct item) =
              (b.finish ((Task.direct item).goTo (.over none)), none) := by
            simp only [begin, hown, hprobe, Option.map_some, Task.begin_of_no_budget hitem]
            rfl
          have hcomes : r = ((Task.direct item).goTo (.over none)).record b.wall b.shared := by
            rw [hr, Task.dispatch, Option.map_some, Task.begin_of_no_budget hitem]
            rfl
          refine .inl ⟨_, hbegin, ?_⟩
          rw [hcomes]
          exact ended_finish hloop rfl rfl
      | some budget =>
          let t := (Task.direct item).goTo
            (.checking item.progress.readings (run b.outside).1 budget)
          have hbegin : b.begin (.direct item) =
              Bench.work { b with outside := (run b.outside).2 } t item.progress.readings
                (run b.outside).1 budget (b.after budget) := by
            simp only [begin, hown, hprobe, Option.map_some, Task.begin_of_budget hitem]
            rfl
          have hcomes : r = (t.conclude ((run b.outside).1.conclude budget item.progress.readings)
              b.wall).record b.wall b.shared := by
            rw [hr, Task.dispatch, Option.map_some, Task.begin_of_budget hitem]
            rfl
          have hafter := b.after_of_lt (hbudget budget hitem)
          have hleft : b.clock + budget.nanos - b.clock = budget.nanos := Nat.add_sub_cancel_left ..
          rw [hafter] at hbegin
          have hwork := work_cases { b with outside := (run b.outside).2 } t item.progress.readings
            (hreach _ hprogram) budget (Nat.le_add_right b.clock budget.nanos)
          simp only [hleft] at hwork
          rw [hbegin]
          rcases hwork with hwork | ⟨tickets, k, a, hwork, hk, ha, hmoments⟩
          · refine .inl ⟨_, hwork, ?_⟩
            rw [hcomes]
            exact ended_conclude (b := { b with outside := (run b.outside).2 }) hloop rfl _
          · have halone := alone_of_checks (b := { b with outside := (run b.outside).2, tickets })
              hloop hdirect ha rfl hgate hcomes.symm hmoments
            exact .inr ⟨_, a, (run b.outside).1, k, hwork, halone, hprogram, hk⟩

/-- A dispatch that is alone on a bench comes to what it comes to at once. -/
theorem dispatch_alone {item : Item} (hactors : b.actors = []) (hloop : b.loop = .absent)
    (hgate : b.permits.contains item.id = false)
    (hreach : ∀ p, b.program? item = some p → p.InReach ∧ p.waits + 1 < rounds)
    (hbudget : ∀ budget, item.settings.budget? b.timing.budgetGrace = some budget →
      budget.seconds < Duration.timerLimit) :
    let r := Task.dispatch b.timing.budgetGrace item (b.program? item) b.wall b.shared
    r.1.phase = .over (b.dispatch item).1 ∧ (b.dispatch item).2.shared = r.2 := by
  intro r
  let s := { b with actors := ⟨.direct item, .ready⟩ :: b.actors, direct := none }
  have hsettle : (s.settle rounds).Ended r ∨
      ∃ j, (s.settle rounds).Alone r j ∧ (s.settle rounds).clock ∉ (s.settle rounds).timers ∧
        ∃ p, b.program? item = some p ∧ j ≤ p.waits := by
    have hsingle : s.actors = [⟨.direct item, .ready⟩] := congrArg _ hactors
    have hpolled := pollActors_of_single hsingle
    have hpoll : s.poll ⟨.direct item, .ready⟩ = some (s.begin (.direct item)) := rfl
    rw [hpoll] at hpolled
    rcases begin_cases (b := s) hloop rfl hgate (fun p hp => (hreach p hp).1) hbudget rfl with
      ⟨k, hbegin, hended⟩ | ⟨k, u, p, waits, hbegin, halone, hp, hwaits⟩
    · rw [hbegin] at hpolled
      rw [rounds, settle_of_went hpolled hended.loop, settle_of_ended hended]
      exact .inl hended
    · rw [hbegin] at hpolled
      rw [rounds, settle_of_went hpolled halone.loop]
      have hfuel := (hreach p hp).2
      rw [rounds] at hfuel
      rcases settle_cases 99999 halone (by omega) with hended | ⟨j, hj, hlater, hle, -⟩
      · exact .inl hended
      · exact .inr ⟨j, hj, hlater, p, hp, Nat.le_trans hle hwaits⟩
  have hended : (s.waitUntil (·.direct.isSome) [] rounds).Ended r := by
    rcases hsettle with hended | ⟨j, hj, hlater, p, hp, hle⟩
    · exact ended_waitUntil (k := 0) (by decide) (by decide) (.inl hended)
    · have hfuel := (hreach p hp).2
      exact ended_waitUntil (k := j) (by omega) (by omega) (.inr ⟨j, Nat.le_refl _, hj, hlater⟩)
  obtain ⟨report, hphase, hdirect⟩ := hended.report
  refine ⟨?_, hended.shared⟩
  rw [hphase, dispatch, hdirect]
  rfl

end Bench

end Vigil
