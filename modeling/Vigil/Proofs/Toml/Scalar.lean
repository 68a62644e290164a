import Vigil.Proofs.Decimal.Numerals
import Vigil.Toml.Scalar

/-!
# Whole numbers are read as they were written

The numeral of a whole number of 64 bits is a word that no date, time or truth value looks
like, and its value is the number.
-/

namespace Vigil.Toml

variable {c : Char} {s : List Char}

/-! ### Digits -/

theorem isDigit_of_mem_toDigits {n : Nat} (h : c ∈ Nat.toDigits 10 n) : isDigit c = true :=
  Decimal.isDigit_of_mem_toDigits h

theorem digit?_of_isDigit (h : isDigit c = true) : digit? 10 c = some (c.toNat - '0'.toNat) := by
  have hlt : c.toNat - '0'.toNat < 10 := by
    have hle : c ≤ '9' := by
      simpa using (Bool.and_eq_true_iff.1 h).2
    have hnat : c.toNat ≤ '9'.toNat := hle
    have hnine : '9'.toNat = 57 := rfl
    have hzero : '0'.toNat = 48 := rfl
    omega
  rw [digit?, if_pos h, Option.bind_some, if_pos hlt]

theorem ne_underscore_of_isDigit (h : isDigit c = true) : c ≠ '_' := by
  rintro rfl
  revert h
  decide

theorem digits?_eq (hdigits : ∀ c ∈ s, isDigit c = true) (hne : s ≠ []) (n : Nat) :
    digits? 10 n s = some (Nat.ofDigitChars 10 s n) := by
  induction s generalizing n with
  | nil => exact absurd rfl hne
  | cons c s ih =>
      have hc := digit?_of_isDigit (hdigits c List.mem_cons_self)
      cases s with
      | nil =>
          rw [digits?, hc, Option.map_some, Nat.mul_comm]
          rfl
      | cons d s =>
          have hd : d ≠ '_' :=
            ne_underscore_of_isDigit (hdigits d (List.mem_cons_of_mem c List.mem_cons_self))
          rw [digits?, hc, Option.bind_some,
            ih (fun x hx => hdigits x (List.mem_cons_of_mem c hx)) (List.cons_ne_nil d s),
            Nat.mul_comm]
          · rfl
          · exact List.cons_ne_nil d s
          · exact fun _ heq => hd (List.cons.inj heq).1

theorem whole?_toDigits (n : Nat) : whole? (Nat.toDigits 10 n) = some n := by
  have hvalue := digits?_eq (fun _ => isDigit_of_mem_toDigits) (Nat.toDigits_ne_nil (n := n)) 0
  rw [Nat.ofDigitChars_ten_toDigits] at hvalue
  unfold whole?
  split
  · next c s heq =>
    rcases Nat.eq_zero_or_pos n with rfl | hn
    · cases heq
    · exact absurd (congrArg List.head? heq) (Decimal.head?_toDigits_ne (Nat.ne_of_gt hn))
  · exact hvalue

/-! ### Numerals -/

/-- The characters of a whole number. -/
def numeral : Int → List Char
  | .ofNat n => Nat.toDigits 10 n
  | .negSucc n => '-' :: Nat.toDigits 10 (n + 1)

theorem toList_toString_int (i : Int) : (toString i).toList = numeral i := by
  cases i with
  | ofNat n => simp [toString, Int.repr, Nat.repr, numeral]
  | negSucc n => simp [toString, Int.repr, Nat.repr, numeral]

theorem toList_toString_nat (n : Nat) : (toString n).toList = numeral n := by
  simp [toString, Nat.repr, numeral]

/-- A numeral has digits only, after a sign at most. -/
theorem isDigit_of_mem_tail_numeral (i : Int) : ∀ c ∈ (numeral i).tail, isDigit c = true := by
  intro c hc
  cases i with
  | ofNat n => exact isDigit_of_mem_toDigits (List.mem_of_mem_tail hc)
  | negSucc n => exact isDigit_of_mem_toDigits hc

theorem numeral_ne_nil (i : Int) : numeral i ≠ [] := by
  cases i with
  | ofNat n => exact Nat.toDigits_ne_nil
  | negSucc n => exact List.cons_ne_nil _ _

/-- The second character of a numeral is a digit. -/
theorem numeral_ne {i : Int} {x y : Char} {more : List Char} (hy : isDigit y = false) :
    numeral i ≠ x :: y :: more := by
  intro heq
  have hdigit := isDigit_of_mem_tail_numeral i y (by rw [heq]; exact List.mem_cons_self)
  rw [hy] at hdigit
  cases hdigit

theorem cutSign_of_isDigit (h : ∀ c ∈ s, isDigit c = true) : cutSign s = (false, s) := by
  unfold cutSign
  split
  · exact absurd (h _ List.mem_cons_self) (by decide)
  · exact absurd (h _ List.mem_cons_self) (by decide)
  · rfl

theorem integer64?_numeral {i : Int} (hlow : Int64.minValue.toInt ≤ i)
    (hhigh : i ≤ Int64.maxValue.toInt) : integer64? (numeral i) = some i := by
  have hvalue : ((whole? (cutSign (numeral i)).2).map fun n =>
      if (cutSign (numeral i)).1 then -(n : Int) else n) = some i := by
    cases i with
    | ofNat n =>
        rw [numeral, cutSign_of_isDigit fun _ => isDigit_of_mem_toDigits, whole?_toDigits]
        rfl
    | negSucc n =>
        rw [numeral, cutSign, whole?_toDigits]
        rfl
  unfold integer64?
  dsimp only
  split
  · next heq => exact absurd heq (numeral_ne (by decide))
  · next heq => exact absurd heq (numeral_ne (by decide))
  · next heq => exact absurd heq (numeral_ne (by decide))
  · rw [hvalue, Option.bind_some, if_pos ⟨hlow, hhigh⟩]

/-! ### Words -/

theorem isDate_eq_false (h : '-' ∉ s.tail) : isDate s = false := by
  unfold isDate
  split
  · simp at h
  · rfl

theorem afterTime?_eq_none (h : ':' ∉ s.tail) : afterTime? s = none := by
  unfold afterTime?
  split
  · simp at h
  · rfl

/-- A word of digits, after a sign at most, is no date and no time. -/
theorem isMoment_eq_false (h : ∀ c ∈ s.tail, isDigit c = true) : isMoment s = false := by
  have hmem {x : Char} (hx : isDigit x = false) : x ∉ s.tail := by
    intro hin
    rw [h x hin] at hx
    cases hx
  have hdate : isDate (s.take 10) = false := by
    refine isDate_eq_false fun hin => hmem (x := '-') rfl ?_
    cases s with
    | nil => exact hin
    | cons c s => exact List.mem_of_mem_take hin
  rw [isMoment, hdate, if_neg Bool.false_ne_true, afterTime?_eq_none (hmem rfl)]
  rfl

theorem ofWord?_numeral {i : Int} (hlow : Int64.minValue.toInt ≤ i)
    (hhigh : i ≤ Int64.maxValue.toInt) : ofWord? (numeral i) = some (.integer i) := by
  rw [ofWord?, if_neg (numeral_ne (by decide)), if_neg (numeral_ne (by decide)),
    isMoment_eq_false (isDigit_of_mem_tail_numeral i), if_neg Bool.false_ne_true,
    integer64?_numeral hlow hhigh]

theorem isWordChar_of_isDigit (h : isDigit c = true) : isWordChar c = true := by
  simp [isWordChar, h]

theorem isWordChar_numeral (i : Int) : ∀ c ∈ numeral i, isWordChar c = true := by
  intro c hc
  cases i with
  | ofNat n => exact isWordChar_of_isDigit (isDigit_of_mem_toDigits hc)
  | negSucc n =>
      rcases List.mem_cons.1 hc with rfl | hc
      · rfl
      · exact isWordChar_of_isDigit (isDigit_of_mem_toDigits hc)

/-- A numeral at the end of a line is read as its number. -/
theorem readWord?_numeral {i : Int} (hlow : Int64.minValue.toInt ≤ i)
    (hhigh : i ≤ Int64.maxValue.toInt) (rest : List Char) :
    readWord? (numeral i ++ '\n' :: rest) = some (.integer i, '\n' :: rest) := by
  have htake : (numeral i ++ '\n' :: rest).takeWhile isWordChar = numeral i := by
    rw [List.takeWhile_append_of_pos (isWordChar_numeral i),
      List.takeWhile_cons_of_neg (by decide), List.append_nil]
  have hdrop : (numeral i ++ '\n' :: rest).dropWhile isWordChar = '\n' :: rest := by
    rw [List.dropWhile_append_of_pos (isWordChar_numeral i),
      List.dropWhile_cons_of_neg (by decide)]
  simp only [readWord?, htake, hdrop, ofWord?_numeral hlow hhigh, Option.map_some]
  rfl

end Vigil.Toml
