import Vigil.Time.Basic
import Vigil.Scheduler.Timing

/-!
# Instants

An instant is the number of nanoseconds from the start of 1970 to a time. Times that are moved by
a second or more move by as many nanoseconds, and outside of leap seconds instants are in the
order of the times.
-/

namespace Vigil

namespace Time

/-- The nanoseconds from the start of 1970 to a time. The inside of a leap second counts as the
second before, as it does when the time is moved forward out of it. -/
def instant (t : Time) : Int := t.second * nanosPerSecond + (t.nanos % nanosPerSecond : Nat)

/-- Not inside a leap second. -/
def IsPlain (t : Time) : Prop := t.nanos < nanosPerSecond

instance (t : Time) : Decidable t.IsPlain := inferInstanceAs (Decidable (_ < _))

theorem of_ofNanos? {n : Int} {t : Time} (h : ofNanos? n = some t) : t.IsPlain ∧ t.instant = n := by
  unfold ofNanos? ofParts? at h
  split at h
  · cases h
    simp only [IsPlain, instant, nanosPerSecond,
      Int.fdiv_eq_ediv_of_nonneg _ (by decide : (0 : Int) ≤ (1000000000 : Nat)),
      Int.fmod_eq_emod_of_nonneg _ (by decide : (0 : Int) ≤ (1000000000 : Nat))]
    omega
  · cases h

theorem ofNanos?_instant {t : Time} (ht : t.IsPlain) : ofNanos? t.instant = some t := by
  have hplain : t.nanos < nanosPerSecond := ht
  have hsecond : t.instant / nanosPerSecond = t.second := by
    simp only [instant, nanosPerSecond] at *
    omega
  have hnanos : (t.instant % nanosPerSecond).toNat = t.nanos := by
    simp only [instant, nanosPerSecond] at *
    omega
  rw [ofNanos?, Int.fdiv_eq_ediv_of_nonneg _ (by decide), Int.fmod_eq_emod_of_nonneg _ (by decide),
    hsecond, hnanos, ofParts?_parts]

theorem add?_of_nanos_eq_zero {s : Span} (hs : s.nanos = 0) (t : Time) : t.add? s = some t := by
  by_cases ht : t.IsPlain
  · have hplain : t.nanos < nanosPerSecond := ht
    rw [add?, if_pos hplain, hs, Int.add_zero, ← ofNanos?_instant ht, instant,
      Nat.mod_eq_of_lt hplain]
  · have hleap : ¬t.nanos < nanosPerSecond := ht
    simp only [add?, hleap, hs, if_false, Int.zero_tdiv, Int.zero_tmod, Int.lt_irrefl,
      gt_iff_lt, false_and, or_self, Int.add_zero, Int.toNat_natCast, ofParts?_parts]

/-- A time that is moved forward by a second or more moves by as many nanoseconds, and is not
inside a leap second any more. -/
theorem of_add?_of_le {t u : Time} {s : Span} (hs : nanosPerSecond ≤ s.nanos)
    (h : t.add? s = some u) : u.IsPlain ∧ u.instant = t.instant + s.nanos := by
  have hnanos := t.nanos_lt
  unfold add? at h
  split at h
  · next hplain =>
    obtain ⟨hu, heq⟩ := of_ofNanos? h
    refine ⟨hu, heq.trans ?_⟩
    rw [instant, Nat.mod_eq_of_lt hplain]
  · next hleap =>
    have hwhole : 0 < s.nanos.tdiv nanosPerSecond := by
      rw [Int.tdiv_eq_ediv_of_nonneg (by omega)]
      simp only [nanosPerSecond] at *
      omega
    simp only [hwhole, true_or, if_true] at h
    obtain ⟨hu, heq⟩ := of_ofNanos? h
    refine ⟨hu, heq.trans ?_⟩
    simp only [instant, nanosPerSecond] at *
    omega

/-- The nanoseconds from the start of 1970 to a time. The inside of a leap second counts as the
second after, as it does when the time is moved back out of it. -/
def laterInstant (t : Time) : Int := t.second * nanosPerSecond + t.nanos

/-- A time that is moved back by a second or more moves by as many nanoseconds, and is not inside
a leap second any more. -/
theorem of_add?_of_le_neg {t u : Time} {s : Span} (hs : nanosPerSecond ≤ -s.nanos)
    (h : t.add? s = some u) : u.IsPlain ∧ u.instant = t.laterInstant + s.nanos := by
  unfold add? at h
  split at h
  · exact of_ofNanos? h
  · next hleap =>
    have hwhole : s.nanos.tdiv nanosPerSecond = -(-s.nanos / nanosPerSecond) := by
      rw [← Int.tdiv_eq_ediv_of_nonneg (by omega), Int.neg_tdiv, Int.neg_neg]
    have hpart : s.nanos.tmod nanosPerSecond = -(-s.nanos % nanosPerSecond) := by
      rw [← Int.tmod_eq_emod_of_nonneg (by omega), Int.neg_tmod, Int.neg_neg]
    rw [hwhole, hpart] at h
    simp only [nanosPerSecond] at *
    rw [if_neg (by omega), if_pos (by omega)] at h
    obtain ⟨hu, heq⟩ := of_ofNanos? h
    refine ⟨hu, heq.trans ?_⟩
    simp only [laterInstant, nanosPerSecond]
    omega

theorem of_add?_of_isPlain {t u : Time} {s : Span} (ht : t.IsPlain) (h : t.add? s = some u) :
    u.IsPlain ∧ u.instant = t.instant + s.nanos := by
  have hplain : t.nanos < nanosPerSecond := ht
  rw [add?, if_pos hplain] at h
  obtain ⟨hu, heq⟩ := of_ofNanos? h
  refine ⟨hu, heq.trans ?_⟩
  rw [instant, Nat.mod_eq_of_lt hplain]

/-- Times are moved by spans only: they reach over less than a span can. -/
theorem ofNanos?_of_add? {t u : Time} {n : Int} (h : t.add? ⟨n⟩ = some u) :
    Span.ofNanos? n = some ⟨n⟩ := by
  have hfirst := t.first_le
  have hlast := t.le_last
  have hfirst' := u.first_le
  have hlast' := u.le_last
  have hnanos := t.nanos_lt
  have hnanos' := u.nanos_lt
  refine if_pos ?_
  rcases Int.lt_or_le n nanosPerSecond with hless | hforward
  · rcases Int.lt_or_le (-n) nanosPerSecond with hmore | hback
    · simp only [nanosPerSecond, Span.limit] at *
      omega
    · have heq := (of_add?_of_le_neg hback h).2
      simp only [instant, laterInstant, nanosPerSecond, Span.limit] at *
      omega
  · have heq := (of_add?_of_le hforward h).2
    simp only [instant, nanosPerSecond, Span.limit] at *
    omega

/-- Adding a length that no span has is adding nothing, or it leads out of the times. -/
theorem add?_eq_bind_ofNanos? (t : Time) (n : Int) :
    t.add? ⟨n⟩ = (Span.ofNanos? n).bind t.add? := by
  cases h : t.add? ⟨n⟩ with
  | some u => rw [ofNanos?_of_add? h, Option.bind_some, h]
  | none =>
      cases hs : Span.ofNanos? n with
      | none => rfl
      | some s =>
          obtain rfl : ⟨n⟩ = s := by
            unfold Span.ofNanos? at hs
            split at hs
            · exact Option.some.inj hs
            · cases hs
          rw [Option.bind_some, h]

theorem le_iff_instant_le {t u : Time} (ht : t.IsPlain) (hu : u.IsPlain) :
    t ≤ u ↔ t.instant ≤ u.instant := by
  rw [le_def]
  simp only [instant, IsPlain, nanosPerSecond] at *
  omega

/-- A time inside a leap second that is moved forward stays in its second, or it moves as one
outside of leap seconds does. -/
theorem of_add?_of_nonneg {t u : Time} {s : Span} (hs : 0 ≤ s.nanos) (h : t.add? s = some u) :
    u.second = t.second ∨ u.IsPlain ∧ u.instant = t.instant + s.nanos := by
  by_cases ht : t.IsPlain
  · exact .inr (of_add?_of_isPlain ht h)
  · have hnanos := t.nanos_lt
    have hleap : ¬t.nanos < nanosPerSecond := ht
    have hwhole : ¬s.nanos.tdiv nanosPerSecond < 0 := by
      rw [Int.tdiv_eq_ediv_of_nonneg hs]
      simp only [nanosPerSecond]
      omega
    rw [add?, if_neg hleap] at h
    simp only [hwhole, if_false] at h
    split at h
    · obtain ⟨hu, heq⟩ := of_ofNanos? h
      refine .inr ⟨hu, heq.trans ?_⟩
      simp only [instant, nanosPerSecond] at *
      omega
    · unfold ofParts? at h
      split at h
      · cases h
        exact .inl rfl
      · cases h

/-- No time moves back when it is moved forward, not even inside a leap second. -/
theorem le_of_add?_of_nonneg {t u : Time} {s : Span} (hs : 0 ≤ s.nanos) (h : t.add? s = some u) :
    t ≤ u := by
  have hnanos := t.nanos_lt
  have hmoved {n : Int} (hn : ofNanos? n = some u)
      (hle : t.nanos < nanosPerSecond ∧ t.second * nanosPerSecond + t.nanos ≤ n ∨
        (t.second + 1) * nanosPerSecond ≤ n) : t ≤ u := by
    obtain ⟨hu, heq⟩ := of_ofNanos? hn
    rw [le_def]
    simp only [instant, IsPlain, nanosPerSecond] at *
    omega
  by_cases ht : t.nanos < nanosPerSecond
  · rw [add?, if_pos ht] at h
    exact hmoved h (.inl ⟨ht, by omega⟩)
  · rw [add?, if_neg ht, Int.tdiv_eq_ediv_of_nonneg hs, Int.tmod_eq_emod_of_nonneg hs] at h
    dsimp only at h
    split at h
    · refine hmoved h (.inr ?_)
      simp only [nanosPerSecond] at *
      omega
    · split at h
      · next hback =>
        simp only [nanosPerSecond] at hback
        omega
      · unfold ofParts? at h
        split at h
        · cases h
          have hpart := Int.emod_nonneg s.nanos (by decide : (nanosPerSecond : Int) ≠ 0)
          refine le_def.2 (.inr ⟨rfl, ?_⟩)
          dsimp only
          omega
        · cases h

/-- What is due by a time that lies `s` after `now`, but later than `now`, is due within `s`. -/
theorem instant_le_of_le_add? {due now horizon : Time} {s : Span} (hdue : due.IsPlain)
    (hs : 0 ≤ s.nanos) (hhorizon : now.add? s = some horizon) (hle : due ≤ horizon)
    (hlater : now.IsPlain ∨ now < due) : due.instant ≤ now.instant + s.nanos := by
  have hmoved : horizon.IsPlain ∧ horizon.instant = now.instant + s.nanos := by
    by_cases hnow : now.IsPlain
    · exact of_add?_of_isPlain hnow hhorizon
    · -- The leap second of `now` has no later time outside of leap seconds.
      refine (of_add?_of_nonneg hs hhorizon).resolve_left fun hsecond => ?_
      have hlt := lt_def.1 (hlater.resolve_left hnow)
      rw [le_def] at hle
      simp only [IsPlain, nanosPerSecond] at *
      omega
  rw [← hmoved.2]
  exact (le_iff_instant_le hdue hmoved.1).1 hle

theorem max_cases (a b : Time) : a.max b = b ∧ a < b ∨ a.max b = a ∧ ¬a < b := by
  unfold max
  split
  · next hlt => exact .inl ⟨rfl, hlt⟩
  · next hge => exact .inr ⟨rfl, hge⟩

/-- What is due by `horizon` is due again one interval after the later of `now` and its due time,
and so it keeps its distance to both. -/
theorem bounds_of_max_add? {due now horizon next : Time} {s interval : Span} (hdue : due.IsPlain)
    (hs : 0 ≤ s.nanos) (hinterval : nanosPerSecond ≤ interval.nanos)
    (hhorizon : now.add? s = some horizon) (hle : due ≤ horizon)
    (hnext : (due.max now).add? interval = some next) :
    next.IsPlain ∧ now.instant + interval.nanos ≤ next.instant ∧
      next.instant ≤ now.instant + s.nanos + interval.nanos ∧
      (now.IsPlain → due.instant ≤ now.instant + s.nanos ∧
        due.instant + interval.nanos ≤ next.instant) := by
  obtain ⟨hplain, heq⟩ := of_add?_of_le hinterval hnext
  rcases max_cases due now with ⟨hmax, hlt⟩ | ⟨hmax, hge⟩
  · rw [hmax] at heq
    refine ⟨hplain, by omega, by omega, fun hnow => ⟨?_, ?_⟩⟩
    · exact instant_le_of_le_add? hdue hs hhorizon hle (.inl hnow)
    · have hbefore : due ≤ now := by
        rw [le_def]
        have := lt_def.1 hlt
        omega
      have := (le_iff_instant_le hdue hnow).1 hbefore
      omega
  · rw [hmax] at heq
    have hafter : now.instant ≤ due.instant := by
      rw [lt_def] at hge
      simp only [instant, IsPlain, nanosPerSecond] at *
      omega
    have hwithin : due.instant ≤ now.instant + s.nanos := by
      refine instant_le_of_le_add? hdue hs hhorizon hle ?_
      by_cases hnow : now.IsPlain
      · exact .inl hnow
      · refine .inr (lt_def.2 ?_)
        rw [lt_def] at hge
        simp only [IsPlain, nanosPerSecond] at *
        omega
    exact ⟨hplain, by omega, by omega, fun _ => ⟨hwithin, by omega⟩⟩

end Time

/-! ### Horizons -/

namespace Timing

/-- The lookahead as ticks use it. One that is longer than any span counts as none. -/
def lookaheadSpan (timing : Timing) : Span :=
  ⟨if (timing.lookahead.nanos : Int) ≤ Span.limit * 1000000 then timing.lookahead.nanos else 0⟩

/-- The horizon of a tick lies ahead by the lookahead. -/
theorem horizon?_eq (timing : Timing) (now : Time) :
    timing.horizon? now = now.add? timing.lookaheadSpan := by
  have hnonneg : -(Span.limit * 1000000) ≤ (timing.lookahead.nanos : Int) :=
    Int.le_trans (by decide) (Int.natCast_nonneg _)
  rw [horizon?, Duration.toSpan?, Span.ofNanos?, lookaheadSpan]
  split
  · next h => rw [if_pos h.2, Option.getD_some]
  · next h =>
    rw [if_neg fun hle => h ⟨hnonneg, hle⟩]
    rfl

theorem lookaheadSpan_bounds (timing : Timing) :
    0 ≤ timing.lookaheadSpan.nanos ∧ timing.lookaheadSpan.nanos ≤ timing.lookahead.nanos := by
  unfold lookaheadSpan
  split
  · exact ⟨Int.natCast_nonneg _, Int.le_refl _⟩
  · exact ⟨Int.le_refl _, Int.natCast_nonneg _⟩

/-- A horizon that lies ahead by the whole lookahead is the one that a tick has. -/
theorem horizon?_of_add? {timing : Timing} {now horizon : Time}
    (h : now.add? ⟨timing.lookahead.nanos⟩ = some horizon) :
    timing.horizon? now = some horizon := by
  rw [horizon?, Duration.toSpan?, Time.ofNanos?_of_add? h]
  exact h

end Timing

end Vigil
