import Mathlib.Algebra.Order.Ring.Nat
import Vigil.Proofs.Decimal.Numerals
import Vigil.Proofs.Time.Calendar
import Vigil.Time.Rfc3339

/-!
# Times are read from their texts

Every part of the text of a time has a width of its own or ends at a mark, so that it is read as
it was written, and the date has the number of its day. A leap second is written as the second 60
of its minute, so it is read back if it stands at the end of one (`WellFormed`), as it does on every
clock.
-/

namespace Vigil.Time

open Vigil.Calendar Vigil.Text

/-! ### Numbers with leading zeros -/

theorem not_isBlank_of_isDigit {c : Char} (h : c.isDigit = true) : isBlank c = false := by
  simp only [Char.isDigit, Bool.and_eq_true, decide_eq_true_eq, ge_iff_le,
    UInt32.le_iff_toNat_le] at h
  have hrange : 48 ≤ c.toNat ∧ c.toNat ≤ 57 := h
  simp only [isBlank, Bool.or_eq_false_iff, Bool.and_eq_false_iff, decide_eq_false_iff_not,
    beq_eq_false_iff_ne]
  omega

theorem isDigit_of_mem_padded {width n : Nat} {c : Char} (h : c ∈ padded width n) :
    c.isDigit = true := by
  rcases List.mem_append.1 h with hzero | hdigit
  · rw [List.eq_of_mem_replicate hzero]
    decide
  · exact Decimal.isDigit_of_mem_toDigits hdigit

theorem padded_ne_nil (width n : Nat) : padded width n ≠ [] := by
  simp [padded, Nat.toDigits_ne_nil]

theorem length_padded {width n : Nat} (hwidth : 0 < width) (h : n < 10 ^ width) :
    (padded width n).length = width := by
  have hlength := (Nat.length_toDigits_le_iff (by decide) hwidth).2 h
  rw [padded, List.length_append, List.length_replicate]
  omega

theorem ofDigits_padded (width n : Nat) : Decimal.ofDigits (padded width n) = n := by
  have hzeros : ∀ k : Nat, Decimal.ofDigits (List.replicate k '0') = 0 := by
    intro k
    induction k with
    | zero => rfl
    | succ k ih =>
        rw [List.replicate_succ', Decimal.ofDigits_append_singleton, ih]
        rfl
  have hfold := Decimal.ofDigits_toDigits n
  unfold Decimal.ofDigits at hzeros hfold ⊢
  rw [padded, List.foldl_append, hzeros, hfold]

theorem trimStart_padded (width n : Nat) (rest : List Char) :
    trimStart (padded width n ++ rest) = padded width n ++ rest := by
  obtain ⟨c, digits, hdigits⟩ := List.exists_cons_of_ne_nil (padded_ne_nil width n)
  rw [hdigits, List.cons_append, trimStart_cons_of_not_blank]
  exact not_isBlank_of_isDigit (isDigit_of_mem_padded (hdigits ▸ List.mem_cons_self))

theorem takeWhile_padded {width n : Nat} {rest : List Char}
    (hrest : ∀ c ∈ rest.head?, c.isDigit = false) :
    (padded width n ++ rest).takeWhile Char.isDigit = padded width n := by
  rw [List.takeWhile_append_of_pos fun _ => isDigit_of_mem_padded]
  cases rest with
  | nil => exact List.append_nil _
  | cons c rest => simp [hrest c rfl]

/-- A number of as many digits as are read at most ends there, whatever comes next. -/
theorem readNumber?_padded {width n : Nat} (hwidth : 0 < width) (h : n < 10 ^ width)
    (rest : List Char) : readNumber? width (padded width n ++ rest) = some (n, rest) := by
  have htake : (padded width n ++ rest).take width = padded width n :=
    List.take_left' (length_padded hwidth h)
  have hall : (padded width n).takeWhile Char.isDigit = padded width n := by
    have hdigits : (padded width n ++ []).takeWhile Char.isDigit = padded width n :=
      takeWhile_padded (by simp)
    rwa [List.append_nil] at hdigits
  simp only [readNumber?, trimStart_padded, htake, hall, ofDigits_padded, List.drop_left]
  rw [if_neg]
  simp [padded_ne_nil]

/-! ### The parts of a text -/

theorem readMark?_cons {mark : Char} (h : isBlank mark = false) (rest : List Char) :
    readMark? mark (mark :: rest) = some rest := by
  rw [readMark?, trimStart_cons_of_not_blank h]
  exact if_pos rfl

/-- A year is read up to the mark behind it. -/
theorem readYear?_yearText (year : Int) (rest : List Char) :
    readYear? (yearText year ++ '-' :: rest) = some (year, '-' :: rest) := by
  have hstop : ∀ c ∈ ('-' :: rest).head?, c.isDigit = false := by
    rintro c ⟨⟩
    decide
  by_cases hshort : 0 ≤ year ∧ year ≤ 9999
  · have hyear : (year.toNat : Int) = year := Int.toNat_of_nonneg hshort.1
    have hdigits : year.toNat < 10 ^ 4 := by omega
    rw [yearText, if_pos hshort, readYear?, trimStart_padded]
    obtain ⟨c, digits, hpadded⟩ := List.exists_cons_of_ne_nil (padded_ne_nil 4 year.toNat)
    have hc : c.isDigit = true := isDigit_of_mem_padded (hpadded ▸ List.mem_cons_self)
    split
    · next heq =>
      rw [hpadded] at heq
      obtain ⟨rfl, -⟩ := List.cons.inj heq
      cases hc
    · next heq =>
      rw [hpadded] at heq
      obtain ⟨rfl, -⟩ := List.cons.inj heq
      cases hc
    · rw [readNumber?_padded (by decide) hdigits, Option.map_some]
      simp only [hyear]
  · have hread : ∀ n : Nat, (padded 4 n ++ '-' :: rest).takeWhile Char.isDigit = padded 4 n :=
      fun n => takeWhile_padded hstop
    have hne : ∀ n : Nat, (padded 4 n).isEmpty = false := fun n =>
      List.isEmpty_eq_false_iff.2 (padded_ne_nil 4 n)
    rw [yearText, if_neg hshort]
    by_cases hnegative : year < 0
    · have habs : -(year.natAbs : Int) = year := by omega
      rw [if_pos hnegative, List.cons_append, readYear?, trimStart_cons_of_not_blank (by decide)]
      simp only [hread, hne, ofDigits_padded, habs, List.drop_left, Bool.false_eq_true, if_false]
    · have habs : (year.natAbs : Int) = year := by omega
      rw [if_neg hnegative, List.cons_append, readYear?, trimStart_cons_of_not_blank (by decide)]
      simp only [hread, hne, ofDigits_padded, habs, List.drop_left, Bool.false_eq_true, if_false]

/-- The digits after the point are those of the nanoseconds without the zeros at their end. -/
theorem readFraction?_padded {width n : Nat} (hwidth : 0 < width ∧ width ≤ 9)
    (h : n < 10 ^ width) {rest : List Char} (hrest : ∀ c ∈ rest.head?, c.isDigit = false) :
    readFraction? ('.' :: (padded width n ++ rest)) = some (n * 10 ^ (9 - width), rest) := by
  have hlength := length_padded hwidth.1 h
  have hkept : (padded width n).take 9 = padded width n :=
    List.take_of_length_le (by omega)
  simp only [readFraction?, takeWhile_padded hrest, hkept, ofDigits_padded, List.drop_left' hlength,
    hlength]
  rw [if_neg]
  · rfl
  · simp [padded_ne_nil]

theorem readFraction?_fractionText {nanos : Nat} (h : nanos < nanosPerSecond) {rest : List Char}
    (hrest : ∀ c ∈ rest.head?, c.isDigit = false ∧ c ≠ '.') :
    readFraction? (fractionText nanos ++ rest) = some (nanos, rest) := by
  have hstop : ∀ c ∈ rest.head?, c.isDigit = false := fun c hc => (hrest c hc).1
  simp only [nanosPerSecond] at h
  unfold fractionText
  split
  · next hzero =>
    rw [hzero, List.nil_append]
    cases rest with
    | nil => rfl
    | cons c rest =>
        unfold readFraction?
        split
        · next heq =>
          obtain ⟨rfl, -⟩ := List.cons.inj heq
          exact absurd rfl (hrest '.' rfl).2
        · rfl
  split
  · next hmillis =>
    have hwhole : nanos / 1000000 * 10 ^ (9 - 3) = nanos := by omega
    rw [List.cons_append, readFraction?_padded (by decide) (by omega) hstop, hwhole]
  split
  · next hmicros =>
    have hwhole : nanos / 1000 * 10 ^ (9 - 6) = nanos := by omega
    rw [List.cons_append, readFraction?_padded (by decide) (by omega) hstop, hwhole]
  · rw [List.cons_append, readFraction?_padded (by decide) (by omega) hstop, Nat.sub_self,
      Nat.pow_zero, Nat.mul_one]

/-! ### Whole texts -/

/-- Outside of leap seconds, or inside one that ends a minute. There are no other leap seconds. -/
def WellFormed (t : Time) : Prop := t.nanos < nanosPerSecond ∨ t.second % 60 = 59

instance (t : Time) : Decidable t.WellFormed := inferInstanceAs (Decidable (_ ∨ _))

theorem lt_hundred_of_valid {date : Date} (h : date.valid = true) :
    date.month < 10 ^ 2 ∧ date.day < 10 ^ 2 := by
  simp only [Date.valid, Bool.and_eq_true, decide_eq_true_eq] at h
  have hlength : daysInMonth date.year date.month ≤ 31 := by
    unfold daysInMonth
    split
    · split <;> decide
    · split <;> decide
  omega

/-- What is read from the text of a time makes up the time again: `ofDay` is the second of the
day. -/
theorem ofParts?_ofDay {t : Time} (h : t.WellFormed) {ofDay leap : Nat}
    (hofDay : ofDay = (t.second.fmod 86400).toNat) (hleap : leap = t.nanos / nanosPerSecond) :
    (ofDay < 86400 ∧ ofDay % 60 + leap ≤ 60) ∧
    ofParts? (t.second.fdiv 86400 * 86400 + (ofDay / 3600 : Nat) * 3600 +
          (ofDay / 60 % 60 : Nat) * 60 +
        ((ofDay % 60 + leap : Nat) - (if ofDay % 60 + leap = 60 then 1 else 0 : Nat)) - 0)
      (t.nanos % nanosPerSecond + (if ofDay % 60 + leap = 60 then 1 else 0) * nanosPerSecond) =
        some t := by
  have hnanos := t.nanos_lt
  rw [Int.fmod_eq_emod_of_nonneg _ (by decide)] at hofDay
  have hday : (ofDay : Int) = t.second % 86400 := by omega
  have hlast : (if ofDay % 60 + leap = 60 then 1 else 0) = leap := by
    unfold WellFormed at h
    simp only [nanosPerSecond] at *
    split <;> omega
  have hbounds : ofDay < 86400 ∧ ofDay % 60 + leap ≤ 60 := by
    simp only [nanosPerSecond] at *
    omega
  refine ⟨hbounds, ?_⟩
  have hsecond : t.second.fdiv 86400 * 86400 + (ofDay / 3600 : Nat) * 3600 +
      (ofDay / 60 % 60 : Nat) * 60 + ((ofDay % 60 + leap : Nat) - (leap : Int)) - 0 =
        t.second := by
    rw [Int.fdiv_eq_ediv_of_nonneg _ (by decide)]
    omega
  have hparts : t.nanos % nanosPerSecond + leap * nanosPerSecond = t.nanos := by
    rw [hleap, Nat.mul_comm]
    exact Nat.mod_add_div _ _
  rw [hlast, hsecond, hparts, ofParts?_parts]

/-- Times are read from their texts as they were, in any year that there is. -/
theorem ofText?_text {t : Time} (h : t.WellFormed) : ofText? t.text = some t := by
  obtain ⟨date, hdate⟩ : ∃ date, date = dateOfDays (t.second.fdiv 86400) := ⟨_, rfl⟩
  obtain ⟨ofDay, hofDay⟩ : ∃ ofDay, ofDay = (t.second.fmod 86400).toNat := ⟨_, rfl⟩
  obtain ⟨leap, hleap⟩ : ∃ leap, leap = t.nanos / nanosPerSecond := ⟨_, rfl⟩
  have hvalid : date.valid = true := hdate ▸ valid_dateOfDays _
  have hnumber : daysOfDate date = t.second.fdiv 86400 := by rw [hdate, daysOfDate_dateOfDays]
  obtain ⟨hmonth, hday⟩ := lt_hundred_of_valid hvalid
  obtain ⟨⟨hofDay', hsecond'⟩, hparts⟩ := ofParts?_ofDay h hofDay hleap
  have htext : t.text.toList = yearText date.year ++ '-' :: (padded 2 date.month ++ '-' ::
      (padded 2 date.day ++ 'T' :: (padded 2 (ofDay / 3600) ++ ':' ::
        (padded 2 (ofDay / 60 % 60) ++ ':' :: (padded 2 (ofDay % 60 + leap) ++
          (fractionText (t.nanos % nanosPerSecond) ++ ['Z'])))))) := by
    simp [text, clockText, ← hdate, ← hofDay, ← hleap]
  have hhour : ofDay / 3600 < 10 ^ 2 := by omega
  have hminute : ofDay / 60 % 60 < 10 ^ 2 := by omega
  have hsecond : ofDay % 60 + leap < 10 ^ 2 := by omega
  have hfraction : t.nanos % nanosPerSecond < nanosPerSecond := Nat.mod_lt _ (by decide)
  have hdash : isBlank '-' = false := by decide
  have hcolon : isBlank ':' = false := by decide
  have hend : ∀ c ∈ ['Z'].head?, c.isDigit = false ∧ c ≠ '.' := by
    rintro c ⟨⟩
    decide
  have hoffset : readOffset? (trimStart ['Z']) = some (0, []) := by decide
  have hgood : ¬(trimStart [] ≠ [] ∨ ¬date.valid = true ∨ 24 ≤ ofDay / 3600 ∨
      60 ≤ ofDay / 60 % 60 ∨ 60 < ofDay % 60 + leap) := by
    rw [trimStart_nil, hvalid]
    simp only [ne_eq, not_true_eq_false, false_or]
    omega
  rw [ofText?, htext]
  refine Option.bind_eq_some_iff.2 ⟨_, readYear?_yearText _ _, ?_⟩
  refine Option.bind_eq_some_iff.2 ⟨_, readMark?_cons hdash _, ?_⟩
  refine Option.bind_eq_some_iff.2 ⟨_, readNumber?_padded (by decide) hmonth _, ?_⟩
  refine Option.bind_eq_some_iff.2 ⟨_, readMark?_cons hdash _, ?_⟩
  refine Option.bind_eq_some_iff.2 ⟨_, readNumber?_padded (by decide) hday _, ?_⟩
  dsimp only
  rw [if_pos (.inr (.inl rfl)), Option.bind_eq_bind, Option.bind_some]
  refine Option.bind_eq_some_iff.2 ⟨_, readNumber?_padded (by decide) hhour _, ?_⟩
  refine Option.bind_eq_some_iff.2 ⟨_, readMark?_cons hcolon _, ?_⟩
  refine Option.bind_eq_some_iff.2 ⟨_, readNumber?_padded (by decide) hminute _, ?_⟩
  refine Option.bind_eq_some_iff.2 ⟨_, readMark?_cons hcolon _, ?_⟩
  refine Option.bind_eq_some_iff.2 ⟨_, readNumber?_padded (by decide) hsecond _, ?_⟩
  refine Option.bind_eq_some_iff.2 ⟨_, readFraction?_fractionText hfraction hend, ?_⟩
  refine Option.bind_eq_some_iff.2 ⟨_, hoffset, ?_⟩
  rw [← hnumber] at hparts
  exact (if_neg hgood).trans hparts

end Vigil.Time
