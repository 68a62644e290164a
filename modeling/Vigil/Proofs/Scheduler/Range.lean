import Vigil.Proofs.Except
import Vigil.Proofs.Scheduler.Pace
import Vigil.Time.Calendar

/-!
# What ticks and dispatches reckon with

Times reach far beyond the year 9999, and durations far beyond the budgets of valid items. So
as long as the clock shows years of four digits and no setting of the scheduler exceeds a
thousand million seconds, the sums and products of ticks and dispatches have results.
-/

namespace Vigil

/-! ### Times -/

namespace Time

/-- The first second of the year 0. -/
def firstSecond : Int := Calendar.daysOfDate ⟨0, 1, 1⟩ * 86400

/-- The last second of the year 9999. -/
def lastSecond : Int := Calendar.daysOfDate ⟨9999, 12, 31⟩ * 86400 + 86399

theorem firstSecond_eq : firstSecond = -62167219200 := by decide

theorem lastSecond_eq : lastSecond = 253402300799 := by decide

/-- In the years 0 to 9999, or after them by so many seconds at most. -/
structure Within (margin : Int) (t : Time) : Prop where
  first_le : firstSecond ≤ t.second
  le_last : t.second ≤ lastSecond + margin

instance (margin : Int) (t : Time) : Decidable (t.Within margin) :=
  decidable_of_iff (firstSecond ≤ t.second ∧ t.second ≤ lastSecond + margin)
    ⟨fun h => ⟨h.1, h.2⟩, fun h => ⟨h.1, h.2⟩⟩

theorem exists_ofNanos? {n low high : Int} (hlow : -8334601228800 ≤ low)
    (hhigh : high ≤ 8210266876799) (hle : low * nanosPerSecond ≤ n)
    (hlt : n < (high + 1) * nanosPerSecond) :
    ∃ u, ofNanos? n = some u ∧ low ≤ u.second ∧ u.second ≤ high := by
  have hpos : (0 : Int) ≤ (nanosPerSecond : Nat) := by decide
  have hparts : low ≤ n.fdiv nanosPerSecond ∧ n.fdiv nanosPerSecond ≤ high ∧
      (n.fmod nanosPerSecond).toNat < 2 * nanosPerSecond := by
    rw [Int.fdiv_eq_ediv_of_nonneg _ hpos, Int.fmod_eq_emod_of_nonneg _ hpos]
    simp only [nanosPerSecond] at *
    omega
  refine ⟨⟨n.fdiv nanosPerSecond, (n.fmod nanosPerSecond).toNat, by omega, by omega,
    hparts.2.2⟩, ?_, hparts.1, hparts.2.1⟩
  rw [ofNanos?, ofParts?, dif_pos ⟨by omega, by omega, hparts.2.2⟩]

namespace Within

variable {margin : Int} {t u : Time}

theorem mono {other : Int} (h : t.Within margin) (hle : margin ≤ other) : t.Within other :=
  ⟨h.first_le, Int.le_trans h.le_last (Int.add_le_add_left hle _)⟩

theorem max {other : Int} (ht : t.Within margin) (hu : u.Within other) (hle : other ≤ margin) :
    (t.max u).Within margin := by
  rcases max_cases t u with ⟨hmax, -⟩ | ⟨hmax, -⟩
  · rw [hmax]
    exact hu.mono hle
  · rw [hmax]
    exact ht

/-- What is not later is within the same margin. -/
theorem of_le {other : Int} (hu : u.Within margin) (ht : t.Within other) (hle : t ≤ u) :
    t.Within margin := by
  refine ⟨ht.first_le, Int.le_trans ?_ hu.le_last⟩
  rw [le_def] at hle
  omega

/-- A time that is moved forward by some seconds at most stays in range. -/
theorem exists_add? {seconds : Int} {s : Span} (h : t.Within margin) (hs : 0 ≤ s.nanos)
    (hle : s.nanos ≤ seconds * nanosPerSecond)
    (hroom : margin + seconds ≤ 7000000000000) :
    ∃ u, t.add? s = some u ∧ u.Within (margin + seconds) := by
  obtain ⟨hfirst, hlast⟩ := h
  rw [firstSecond_eq] at hfirst
  rw [lastSecond_eq] at hlast
  have hnanos := t.nanos_lt
  have hseconds : 0 ≤ seconds := by
    simp only [nanosPerSecond] at hle
    omega
  have hmoved : ∀ n, n = t.second * nanosPerSecond + (t.nanos % nanosPerSecond : Nat) + s.nanos →
      ∃ u, ofNanos? n = some u ∧ u.Within (margin + seconds) := by
    intro n hn
    have hle : t.second * nanosPerSecond ≤ n := by
      simp only [nanosPerSecond] at *
      omega
    have hlt : n < (t.second + seconds + 1) * nanosPerSecond := by
      simp only [nanosPerSecond] at *
      omega
    obtain ⟨u, hu, hlow, hhigh⟩ := exists_ofNanos? (by omega) (by omega) hle hlt
    exact ⟨u, hu, by rw [firstSecond_eq]; omega, by rw [lastSecond_eq]; omega⟩
  by_cases hplain : t.nanos < nanosPerSecond
  · rw [add?, if_pos hplain]
    exact hmoved _ (by rw [Nat.mod_eq_of_lt hplain])
  · have hwhole : ¬s.nanos.tdiv nanosPerSecond < 0 := by
      rw [Int.tdiv_eq_ediv_of_nonneg hs]
      simp only [nanosPerSecond]
      omega
    rw [add?, if_neg hplain]
    simp only [hwhole, if_false]
    split
    · refine hmoved _ ?_
      simp only [nanosPerSecond] at *
      omega
    · next hstays =>
      -- It does not leave its leap second.
      have hpart : (t.nanos + s.nanos.tmod nanosPerSecond).toNat < 2 * nanosPerSecond := by
        rw [Int.tmod_eq_emod_of_nonneg hs] at hstays ⊢
        simp only [nanosPerSecond] at *
        omega
      refine ⟨⟨t.second, _, t.first_le, t.le_last, hpart⟩,
        by rw [ofParts?, dif_pos ⟨t.first_le, t.le_last, hpart⟩], ?_, ?_⟩
      · rw [firstSecond_eq]
        exact hfirst
      · rw [lastSecond_eq]
        simp only
        omega

end Within

end Time

/-! ### Durations -/

namespace Duration

variable {d e : Duration} {n : Nat}

theorem times?_of_lt (h : d.nanos * n < secondsLimit * nanosPerSecond) :
    d.times? n = some ⟨d.nanos * n⟩ :=
  if_pos (decide_eq_true h)

theorem plus?_of_lt (h : d.nanos + e.nanos < secondsLimit * nanosPerSecond) :
    d.plus? e = some ⟨d.nanos + e.nanos⟩ :=
  if_pos (decide_eq_true h)

end Duration

/-! ### Settings -/

namespace Validation

/-- What passes all checks passes those of its numbers. -/
theorem of_checkItem {s : Settings} (h : checkItem s = .ok ()) :
    checkInterval s.intervalSeconds = .ok () ∧ checkTimeout s.timeoutSeconds = .ok () ∧
      checkRetry s.retry = .ok () := by
  obtain ⟨_, -, h⟩ := Except.ok_of_bind h
  obtain ⟨_, hinterval, h⟩ := Except.ok_of_bind h
  obtain ⟨_, htimeout, h⟩ := Except.ok_of_bind h
  obtain ⟨_, hretry, -⟩ := Except.ok_of_bind h
  exact ⟨hinterval, htimeout, hretry⟩

theorem timeout_of_checkTimeout {n : UInt64} (h : checkTimeout n = .ok ()) :
    1 ≤ n.toNat ∧ n.toNat ≤ 300 := by
  unfold checkTimeout at h
  split at h
  · cases h
  · next hmin =>
    split at h
    · cases h
    · next hmax =>
      exact ⟨UInt64.le_iff_toNat_le.1 (UInt64.not_lt.1 hmin),
        UInt64.le_iff_toNat_le.1 (UInt64.not_lt.1 hmax)⟩

theorem retry_of_checkRetry {n : UInt32} (h : checkRetry n = .ok ()) : n.toNat ≤ 10 := by
  unfold checkRetry at h
  split at h
  · cases h
  · next hmax => exact UInt32.le_iff_toNat_le.1 (UInt32.not_lt.1 hmax)

end Validation

/-- No setting of the scheduler exceeds a thousand million seconds. -/
structure Timing.Moderate (timing : Timing) : Prop where
  lookahead : timing.lookahead.nanos ≤ 1000000000 * nanosPerSecond
  stagger : timing.stagger.nanos ≤ 1000000000 * nanosPerSecond
  budgetGrace : timing.budgetGrace.nanos ≤ 1000000000 * nanosPerSecond

namespace Settings

variable {s : Settings}

/-- The budget of a check: one attempt at least, and eleven of five minutes at most. -/
structure Budgeted (s : Settings) (grace budget : Duration) : Prop where
  budget_eq : s.budget? grace = some budget
  le_budget : s.timeout.nanos + grace.nanos ≤ budget.nanos
  budget_le : budget.nanos ≤ (Duration.ofSeconds 3300).nanos + grace.nanos

theorem exists_budget (h : Validation.checkItem s = .ok ()) {grace : Duration}
    (hgrace : grace.nanos ≤ 1000000000 * nanosPerSecond) : ∃ budget, s.Budgeted grace budget := by
  obtain ⟨-, htimeout, hretry⟩ := Validation.of_checkItem h
  obtain ⟨hmin, hmax⟩ := Validation.timeout_of_checkTimeout htimeout
  have hattempts := Validation.retry_of_checkRetry hretry
  have hnanos : s.timeout.nanos = s.timeoutSeconds.toNat * nanosPerSecond := by
    rw [timeout, max_one hmin]
    rfl
  have hlow : s.timeout.nanos ≤ s.timeout.nanos * (s.retry.toNat + 1) :=
    Nat.le_mul_of_pos_right _ (Nat.succ_pos _)
  have hhigh : s.timeout.nanos * (s.retry.toNat + 1) ≤ 300 * nanosPerSecond * 11 := by
    rw [hnanos]
    exact Nat.mul_le_mul (Nat.mul_le_mul_right _ hmax) (by omega)
  have hlimit : Duration.secondsLimit = 18446744073709551616 := rfl
  simp only [nanosPerSecond] at hgrace hhigh
  have htimes : s.timeout.times? (s.retry.toNat + 1)
      = some ⟨s.timeout.nanos * (s.retry.toNat + 1)⟩ := by
    refine Duration.times?_of_lt ?_
    simp only [hlimit, nanosPerSecond]
    omega
  refine ⟨⟨s.timeout.nanos * (s.retry.toNat + 1) + grace.nanos⟩, ?_, ?_, ?_⟩
  · have hretries : s.retry.toNat + 1 < UInt32.size := by
      simp only [UInt32.size]
      omega
    rw [budget?, if_pos hretries, htimes, Option.bind_some]
    refine Duration.plus?_of_lt ?_
    simp only [hlimit, nanosPerSecond]
    omega
  · exact Nat.add_le_add_right hlow _
  · refine Nat.add_le_add_right ?_ _
    simp only [Duration.ofSeconds, nanosPerSecond]
    omega

end Settings

/-! ### Ticks -/

/-- A valid item whose due time a tick can have set. -/
structure Item.InRange (i : Item) : Prop where
  valid : Validation.checkItem i.settings = .ok ()
  nextDue : i.progress.nextDue.Within (1000000000 + 86400)

namespace Timing.Moderate

variable {timing : Timing} (h : timing.Moderate)

include h

theorem exists_horizon {now : Time} (hnow : now.Within 0) :
    ∃ horizon, timing.horizon? now = some horizon ∧ horizon.Within 1000000000 := by
  obtain ⟨hnonneg, hle⟩ := timing.lookaheadSpan_bounds
  have hlookahead := h.lookahead
  have hseconds : timing.lookaheadSpan.nanos ≤ 1000000000 * nanosPerSecond := by omega
  rw [timing.horizon?_eq]
  exact hnow.exists_add? hnonneg hseconds (by decide)

theorem exists_delay (t : Tick) : ∃ delay, t.delay? timing = some delay := by
  have hcount : t.report.dispatched.length % UInt32.size < UInt32.size :=
    Nat.mod_lt _ (by decide)
  have hlt : timing.stagger.nanos * (t.report.dispatched.length % UInt32.size)
      ≤ 1000000000 * nanosPerSecond * UInt32.size :=
    Nat.mul_le_mul h.stagger (Nat.le_of_lt hcount)
  exact ⟨_, Duration.times?_of_lt (Nat.lt_of_le_of_lt hlt (by decide))⟩

end Timing.Moderate

/-- A due item is moved on, and its due time stays where it was found or comes after the tick by
the lookahead and a day at most. -/
theorem Item.InRange.exists_launchedAt? {i : Item} (h : i.InRange) {now horizon : Time}
    (hnow : now.Within 0) (hhorizon : horizon.Within 1000000000) (hdue : i.isDue horizon = true) :
    ∃ new, i.launchedAt? now = some new ∧ new.InRange := by
  obtain ⟨hcheck, -, -⟩ := Validation.of_checkItem h.valid
  obtain ⟨hinterval, -⟩ := Settings.interval?_of_valid hcheck
  have hday : i.settings.intervalNanos ≤ 86400 * nanosPerSecond := by
    have hmax := (Validation.interval_of_checkInterval hcheck).2
    simp only [Settings.intervalNanos, nanosPerSecond]
    omega
  have hbase : (i.progress.nextDue.max now).Within 1000000000 :=
    (hhorizon.of_le h.nextDue (isDue_iff.1 hdue).2).max hnow (by decide)
  have hnonneg : 0 ≤ i.settings.intervalNanos := Int.natCast_nonneg _
  obtain ⟨due, hmoved, hwithin⟩ :=
    hbase.exists_add? (s := ⟨i.settings.intervalNanos⟩) hnonneg hday (by decide)
  have hdueAfter : i.nextDueAfter? now = some due := by
    rw [nextDueAfter?, hinterval]
    exact hmoved
  refine ⟨{ i with progress := { i.progress with nextDue := due, lastRun := some now } }, ?_,
    h.valid, hwithin⟩
  rw [launchedAt?_eq, hdueAfter]
  rfl

end Vigil
