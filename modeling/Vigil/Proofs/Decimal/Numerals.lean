import Vigil.Decimal.Layout

/-!
# The numerals of numbers

The numeral of the shortest decimal digits of a double can be read back as it stands: it
has a digit before the point, no zero stands in front of another digit there, and nothing
but digits is around the point.
-/

namespace Vigil.Decimal

/-! ### Digits -/

theorem ofDigits_toDigits (n : Nat) : ofDigits (Nat.toDigits 10 n) = n := by
  have hfold : ofDigits (Nat.toDigits 10 n) = Nat.ofDigitChars 10 (Nat.toDigits 10 n) 0 := by
    simp only [ofDigits, Nat.ofDigitChars, Nat.mul_comm]
  rw [hfold, Nat.ofDigitChars_toDigits (by decide) (by decide)]

theorem isDigit_of_mem_toDigits {n : Nat} {c : Char} (h : c ∈ Nat.toDigits 10 n) :
    c.isDigit = true :=
  Nat.isDigit_of_mem_toDigits (by decide) (by decide) h

/-- The first digit of a number other than zero is not zero. -/
theorem head?_toDigits_ne {n : Nat} (h : n ≠ 0) : (Nat.toDigits 10 n).head? ≠ some '0' := by
  induction n using Nat.strongRecOn with
  | ind n ih =>
      rw [Nat.toDigits_eq_if (by decide)]
      split
      · next hlt =>
        have hdigit : ∀ k < 10, k ≠ 0 → Nat.digitChar k ≠ '0' := by decide
        simpa using hdigit n hlt h
      · next hle =>
        rw [List.head?_append, List.head?_eq_some_head Nat.toDigits_ne_nil, Option.some_or,
          ← List.head?_eq_some_head]
        exact ih (n / 10) (by omega) (by omega)

/-! ### Numerals that can be read back -/

/-- A numeral that is written as numbers are. -/
structure Numeral.WellFormed (n : Numeral) : Prop where
  whole_ne_nil : n.whole ≠ []
  isDigit_whole : ∀ c ∈ n.whole, c.isDigit = true
  /-- A zero before the point stands alone. -/
  head?_whole : 1 < n.whole.length → n.whole.head? ≠ some '0'
  isDigit_fraction : ∀ c ∈ n.fraction, c.isDigit = true

namespace Layout

theorem isDigit_zero {c : Char} {n : Nat} (h : c ∈ List.replicate n '0') : c.isDigit = true := by
  rw [List.eq_of_mem_replicate h]
  decide

theorem isDigit_point {c : Char} {keepsPoint : Bool} (h : c ∈ if keepsPoint then ['0'] else []) :
    c.isDigit = true := by
  split at h
  · rw [List.mem_singleton.1 h]
    decide
  · exact absurd h List.not_mem_nil

/-- Around a point, the digits of a number other than zero are well-formed. -/
theorem wellFormed_positionalNumeral (keepsPoint negative : Bool) {digits : List Char}
    (hne : digits ≠ []) (hdigits : ∀ c ∈ digits, c.isDigit = true)
    (hhead : digits.head? ≠ some '0') (exponent : Int) :
    (positionalNumeral keepsPoint negative digits exponent).WellFormed := by
  unfold positionalNumeral
  split
  · next e =>
    refine ⟨by simp [hne], ?_, ?_, fun _ => isDigit_point⟩
    · intro c hc
      rcases List.mem_append.1 hc with hc | hc
      · exact hdigits c hc
      · exact isDigit_zero hc
    · intro _
      rwa [List.head?_append, List.head?_eq_some_head hne, Option.some_or,
        ← List.head?_eq_some_head]
  · next e =>
    dsimp only
    split
    · next hlt =>
      have hpos : 0 < digits.length - (e + 1) := by omega
      refine ⟨?_, fun c hc => hdigits c (List.mem_of_mem_take hc), ?_,
        fun c hc => hdigits c (List.mem_of_mem_drop hc)⟩
      · rw [Ne, List.take_eq_nil_iff, not_or]
        exact ⟨by omega, hne⟩
      · intro _
        rwa [List.head?_take, if_neg (by omega)]
    · refine ⟨by simp, by simp, by simp, ?_⟩
      intro c hc
      rcases List.mem_append.1 hc with hc | hc
      · exact isDigit_zero hc
      · exact hdigits c hc

/-- The numeral of a number is well-formed, where zero is a zero without an exponent. -/
theorem wellFormed_numeral (layout : Layout) {d : Decimal} (h : d.units = 0 → d.exponent = 0) :
    (layout.numeral d).WellFormed := by
  have hne : Nat.toDigits 10 d.units ≠ [] := Nat.toDigits_ne_nil
  have hdigits : ∀ c ∈ Nat.toDigits 10 d.units, c.isDigit = true :=
    fun _ => isDigit_of_mem_toDigits
  unfold numeral
  dsimp only
  split
  · by_cases hzero : d.units = 0
    · -- Of zero, the only digit is a zero, and the rule for it is that it stands alone.
      rw [hzero, h hzero]
      exact ⟨by simp [positionalNumeral], by simp [positionalNumeral],
        by simp [positionalNumeral], fun _ => isDigit_point⟩
    · exact wellFormed_positionalNumeral _ _ hne hdigits (head?_toDigits_ne hzero) _
  · refine ⟨?_, fun c hc => hdigits c (List.mem_of_mem_take hc), ?_,
      fun c hc => hdigits c (List.mem_of_mem_drop hc)⟩
    · simp [List.take_eq_nil_iff]
    · intro hlength
      exact absurd hlength (Nat.not_lt.2 (List.length_take_le _ _))

end Layout

/-! ### The shortest digits -/

/-- Of two points that are tried, the one that is taken fits. -/
theorem Binary.fits_units (fits : Nat → Bool) {below above : Nat} {first : Bool} {step : Int}
    {d : Decimal}
    (h : (if fits below && first then some (⟨false, below, step⟩ : Decimal)
      else if fits above then some ⟨false, above, step⟩ else none) = some d) :
    fits d.units = true := by
  split at h
  · next hbelow =>
    rw [← Option.some.inj h]
    exact (Bool.and_eq_true_iff.1 hbelow).1
  · split at h
    · next habove =>
      rw [← Option.some.inj h]
      exact habove
    · cases h

/-- A point on a grid is not zero. -/
theorem Binary.units_of_onGrid? {b : Binary} {count : Nat} {d : Decimal}
    (h : b.onGrid? count = some d) : d.units ≠ 0 := by
  unfold onGrid? at h
  have hfits :=
    fits_units (fun n => n ≠ 0 && b.contains (.scaled n 10 (b.scale + 1 - count))) h
  simp only [Bool.and_eq_true, decide_eq_true_eq] at hfits
  exact hfits.1

theorem Binary.units_firstGrid {b : Binary} (h : b.mantissa ≠ 0) (fuel count : Nat) :
    (b.firstGrid fuel count).units ≠ 0 := by
  induction fuel generalizing count with
  | zero =>
      rw [firstGrid]
      cases hgrid : b.onGrid? count with
      | none => exact h
      | some d => exact units_of_onGrid? hgrid
  | succ fuel ih =>
      rw [firstGrid]
      split
      · next hgrid => exact units_of_onGrid? hgrid
      · exact ih (count + 1)

theorem units_stripZeros (fuel : Nat) {d : Decimal} (h : d.units ≠ 0) :
    (stripZeros fuel d).units ≠ 0 := by
  induction fuel generalizing d with
  | zero => exact h
  | succ fuel ih =>
      rw [stripZeros]
      split
      · next hzero =>
        refine ih ?_
        dsimp only
        omega
      · exact h

/-- Of all doubles, only the zeros have the digit zero, and it has no exponent. -/
theorem exponent_shortest {x : Float} (h : (shortest x).units = 0) : (shortest x).exponent = 0 := by
  unfold shortest at h ⊢
  dsimp only at h ⊢
  split at h
  · next hzero => rw [if_pos hzero]
  · next hne => exact absurd h (units_stripZeros 20 (Binary.units_firstGrid hne 16 1))

/-- Every double has a numeral that can be read back. -/
theorem wellFormed_shortest (layout : Layout) (x : Float) :
    (layout.numeral (shortest x)).WellFormed :=
  layout.wellFormed_numeral exponent_shortest

end Vigil.Decimal
