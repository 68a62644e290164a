import Vigil.Time.Basic

/-!
# Whole milliseconds

A time outside of leap seconds that is a whole number of milliseconds is given back by
this number, and the numbers are in the order of the times.
-/

namespace Vigil.Time

/-- A whole number of milliseconds, not inside a leap second. -/
structure IsWhole (t : Time) : Prop where
  nanos_lt : t.nanos < nanosPerSecond
  dvd_nanos : t.nanos % 1000000 = 0

instance (t : Time) : Decidable t.IsWhole :=
  decidable_of_iff (t.nanos < nanosPerSecond ∧ t.nanos % 1000000 = 0)
    ⟨fun h => ⟨h.1, h.2⟩, fun h => ⟨h.1, h.2⟩⟩

theorem ofMillis?_millis {t : Time} (h : t.IsWhole) : ofMillis? t.millis = some t := by
  have hlt : t.nanos < 1000000000 := h.nanos_lt
  have hdvd := h.dvd_nanos
  have hsecond : t.millis.fdiv 1000 = t.second := by
    rw [millis, Int.fdiv_eq_ediv_of_nonneg _ (by decide)]
    omega
  have hnanos : (t.millis.fmod 1000).toNat * 1000000 = t.nanos := by
    rw [millis, Int.fmod_eq_emod_of_nonneg _ (by decide)]
    omega
  rw [ofMillis?, hsecond, hnanos, ofParts?_parts]

/-- The time at the start of its millisecond. -/
def floorMillis (t : Time) : Time where
  second := t.second
  nanos := t.nanos / 1000000 * 1000000
  first_le := t.first_le
  le_last := t.le_last
  nanos_lt := Nat.lt_of_le_of_lt (Nat.div_mul_le_self _ _) t.nanos_lt

theorem millis_floorMillis (t : Time) : t.floorMillis.millis = t.millis := by
  simp only [millis, floorMillis]
  omega

theorem isWhole_floorMillis {t : Time} (h : t.nanos < nanosPerSecond) : t.floorMillis.IsWhole :=
  ⟨Nat.lt_of_le_of_lt (Nat.div_mul_le_self _ _) h, Nat.mul_mod_left _ _⟩

/-- The milliseconds of a time give it back rounded down, but not inside a leap second. -/
theorem ofMillis?_millis_iff {t : Time} :
    ofMillis? t.millis = some t.floorMillis ↔ t.nanos < nanosPerSecond := by
  constructor
  · intro h
    unfold ofMillis? ofParts? at h
    split at h
    · have hsecond := congrArg Time.second (Option.some.inj h)
      simp only [floorMillis, millis, Int.fdiv_eq_ediv_of_nonneg _ (by decide : (0 : Int) ≤ 1000)]
        at hsecond
      simp only [nanosPerSecond]
      omega
    · cases h
  · intro h
    rw [← millis_floorMillis, ofMillis?_millis (isWhole_floorMillis h)]

theorem millis_lt_iff {s t : Time} (hs : s.IsWhole) (ht : t.IsWhole) :
    s.millis < t.millis ↔ s < t := by
  have hslt : s.nanos < 1000000000 := hs.nanos_lt
  have htlt : t.nanos < 1000000000 := ht.nanos_lt
  have hsdvd := hs.dvd_nanos
  have htdvd := ht.dvd_nanos
  rw [lt_def, millis, millis]
  omega

theorem millis_le_iff {s t : Time} (hs : s.IsWhole) (ht : t.IsWhole) :
    s.millis ≤ t.millis ↔ s ≤ t := by
  rw [← Int.not_lt, millis_lt_iff ht hs, lt_def, le_def]
  omega

end Vigil.Time
