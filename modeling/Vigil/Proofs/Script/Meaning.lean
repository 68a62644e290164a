import Mathlib.Data.List.TakeWhile
import Vigil.Proofs.Script.Comparing
import Vigil.Proofs.Script.Scan

/-!
# What scripts mean

A script is a disjunction of conjunctions of clauses, and a clause is one operand or two
with a comparison between them. `Disjunction.truth` gives its meaning: every clause must
have a truth, and else the script has the error of the leftmost clause that has none.
`Disjunction.Written` says how it is written, with blanks at will around each operand and
each sign. Whatever is so written is read so (`evaluate_written`): the scans cut it at the
signs that were written between its terms and nowhere else.
-/

namespace Vigil.Script

open Text (isBlank trim trimStart trimEnd)

/-! ### Terms -/

/-- A name that is no literal. -/
structure IsName (word : List Char) : Prop where
  ne_nil : word ≠ []
  chars : ∀ c ∈ word, isNameChar c = true
  ne_true : String.ofList word ≠ "true"
  ne_false : String.ofList word ≠ "false"
  not_number : Decimal.readFloat? word = none

/-- An operand of a clause. -/
inductive Operand where
  | number (word : List Char) (x : Float) (h : Decimal.readFloat? word = some x)
  | bool (b : Bool)
  | name (word : List Char) (h : IsName word)
  | text (s : List Char) (h : '"' ∉ s)

/-- One operand, or two that are compared. -/
inductive Clause where
  | single (o : Operand)
  | compare (left : Operand) (op : Comparison) (right : Operand)

/-- Clauses that must all be true. -/
abbrev Conjunction := List Clause

/-- Conjunctions of which one must be true. -/
abbrev Disjunction := List Conjunction

/-- Why there is no result. -/
def fault? {ε α : Type} : Except ε α → Option ε
  | .error e => some e
  | .ok _ => none

/-- Whether there is a result and it is true. -/
def isTrue {ε : Type} : Except ε Bool → Bool
  | .error _ => false
  | .ok b => b

@[simp] theorem fault?_ok {ε α : Type} (x : α) : fault? (.ok x : Except ε α) = none := rfl

@[simp] theorem isTrue_ok {ε : Type} (b : Bool) : isTrue (.ok b : Except ε Bool) = b := rfl

section

variable (readings : Readings)

/-- The value of an operand. A name has one if there is such a reading. -/
def Operand.value : Operand → Except ScriptError Value
  | number _ x _ => .ok (.number x)
  | bool b => .ok (.bool b)
  | name word _ =>
    match readings[String.ofList word]? with
    | some (.number x) => .ok (.number x)
    | some (.text s) => .ok (.text s)
    | none => .error (.unknownVariable (String.ofList word))
  | text s _ => .ok (.text (String.ofList s))

/-- The truth of a clause. By itself a number is true if it is not zero, and a text is neither true
nor false. The error of the left operand comes before the one of the right operand, and that before
the one of the comparison. -/
def Clause.truth : Clause → Except ScriptError Bool
  | single o =>
    match o.value readings with
    | .error e => .error e
    | .ok (.bool b) => .ok b
    | .ok (.number x) => .ok (x != 0.0)
    | .ok (.text s) => .error (.typeMismatch s "bool")
  | compare left op right =>
    match left.value readings, right.value readings with
    | .error e, _ => .error e
    | .ok _, .error e => .error e
    | .ok l, .ok r => op.meaning l r

/-- The truth of a disjunction, or the error of its leftmost clause that has none. -/
def Disjunction.truth (d : Disjunction) : Except ScriptError Bool :=
  match d.flatten.findSome? fun c => fault? (c.truth readings) with
  | some e => .error e
  | none => .ok (d.any fun cs => cs.all fun c => isTrue (c.truth readings))

end

/-! ### How terms are written -/

def Operand.chars : Operand → List Char
  | number word _ _ => word
  | bool true => ['t', 'r', 'u', 'e']
  | bool false => ['f', 'a', 'l', 's', 'e']
  | name word _ => word
  | text s _ => '"' :: (s ++ ['"'])

/-- A text of blanks only. -/
def Blanks (s : List Char) : Prop := ∀ c ∈ s, isBlank c = true

theorem Blanks.nil : Blanks [] := List.forall_mem_nil _

/-- The text of a clause from its first operand to its last one. -/
inductive Clause.Core : Clause → List Char → Prop where
  | single (o : Operand) : Core (.single o) o.chars
  | compare (left : Operand) (op : Comparison) (right : Operand) {before after : List Char}
      (hbefore : Blanks before) (hafter : Blanks after) :
      Core (.compare left op right)
        ((left.chars ++ before) ++ (op.sign ++ (after ++ right.chars)))

/-- A clause stands between blanks. -/
inductive Clause.Written (c : Clause) : List Char → Prop where
  | mk {before core after : List Char} (hbefore : Blanks before) (hcore : c.Core core)
      (hafter : Blanks after) : Written c (before ++ (core ++ after))

def Conjunction.Written : Conjunction → List Char → Prop := Joined '&' Clause.Written

def Disjunction.Written : Disjunction → List Char → Prop := Joined '|' Conjunction.Written

/-! ### Words -/

/-- A character of a name or of a number. -/
def isWordChar (c : Char) : Bool := isNameChar c || c == '+' || c == '-'

theorem toNat_of_isAlphanum {c : Char} (h : c.isAlphanum = true) :
    (48 ≤ c.toNat ∧ c.toNat ≤ 57) ∨ (65 ≤ c.toNat ∧ c.toNat ≤ 90) ∨
      (97 ≤ c.toNat ∧ c.toNat ≤ 122) := by
  have hbounds {low high : UInt32} (hlow : low ≤ c.val) (hhigh : c.val ≤ high) :
      low.toNat ≤ c.toNat ∧ c.toNat ≤ high.toNat :=
    ⟨UInt32.le_iff_toNat_le.1 hlow, UInt32.le_iff_toNat_le.1 hhigh⟩
  rcases Bool.or_eq_true_iff.1 h with hletter | hdigit
  · rcases Bool.or_eq_true_iff.1 hletter with hupper | hlower
    · obtain ⟨hlow, hhigh⟩ := of_decide_eq_true hupper
      exact .inr (.inl (hbounds hlow hhigh))
    · obtain ⟨hlow, hhigh⟩ := Bool.and_eq_true_iff.1 hlower
      exact .inr (.inr (hbounds (of_decide_eq_true hlow) (of_decide_eq_true hhigh)))
  · obtain ⟨hlow, hhigh⟩ := Bool.and_eq_true_iff.1 hdigit
    exact .inl (hbounds (of_decide_eq_true hlow) (of_decide_eq_true hhigh))

theorem not_isBlank_of_isWordChar {c : Char} (h : isWordChar c = true) : isBlank c = false := by
  simp only [isWordChar, isNameChar, Bool.or_eq_true, beq_iff_eq] at h
  rcases h with (((h | rfl) | rfl) | rfl) | rfl
  · have hrange := toNat_of_isAlphanum h
    simp [isBlank]
    omega
  all_goals rfl

theorem isWordChar_of_isAlphanum {c : Char} (h : c.isAlphanum = true) : isWordChar c = true := by
  simp [isWordChar, isNameChar, h]

theorem isWordChar_of_isDigit {c : Char} (h : c.isDigit = true) : isWordChar c = true :=
  isWordChar_of_isAlphanum (by simp [Char.isAlphanum, h])

theorem isAlphanum_of_toLower {c : Char} (h : c.toLower.isAlphanum = true) :
    c.isAlphanum = true := by
  unfold Char.toLower at h
  split at h
  · next hupper =>
    have hletter : c.isAlpha = true := Bool.or_eq_true_iff.2 (.inl (decide_eq_true hupper))
    exact Bool.or_eq_true_iff.2 (.inl hletter)
  · exact h

theorem isWordChar_of_takeSign {s : List Char}
    (h : ∀ c ∈ (Decimal.takeSign s).2, isWordChar c = true) : ∀ c ∈ s, isWordChar c = true := by
  unfold Decimal.takeSign at h
  split at h
  · exact List.forall_mem_cons.2 ⟨rfl, h⟩
  · exact List.forall_mem_cons.2 ⟨rfl, h⟩
  · exact h

theorem isWordChar_of_readExponent? {s : List Char} {e : Int}
    (h : Decimal.readExponent? s = some e) : ∀ c ∈ s, isWordChar c = true := by
  cases s with
  | nil => exact List.forall_mem_nil _
  | cons c s =>
      rw [Decimal.readExponent?, Option.ite_none_right_eq_some] at h
      obtain ⟨hmark, h⟩ := h
      rcases htake : Decimal.takeSign s with ⟨negative, digits⟩
      rw [htake] at h
      obtain ⟨hdigits, -⟩ := Option.ite_none_left_eq_some.1 h
      rw [Bool.not_eq_true, Bool.or_eq_false_iff, Bool.not_eq_false'] at hdigits
      refine List.forall_mem_cons.2 ⟨?_, isWordChar_of_takeSign fun d hd => ?_⟩
      · rcases (by simpa using hmark : c = 'e' ∨ c = 'E') with rfl | rfl <;> rfl
      · rw [htake] at hd
        exact isWordChar_of_isDigit (List.all_eq_true.1 hdigits.2 d hd)

theorem isWordChar_of_takeDigits {s : List Char}
    (h : ∀ c ∈ (Decimal.takeDigits s).2, isWordChar c = true) : ∀ c ∈ s, isWordChar c = true := by
  intro c hc
  rw [← Decimal.takeDigits_append s, List.mem_append] at hc
  rcases hc with hc | hc
  · exact isWordChar_of_isDigit (List.mem_takeWhile_imp hc)
  · exact h c hc

theorem isWordChar_of_readUnsigned? {s : List Char} {d : Decimal}
    (h : Decimal.readUnsigned? s = some d) : ∀ c ∈ s, isWordChar c = true := by
  refine isWordChar_of_takeDigits ?_
  unfold Decimal.readUnsigned? at h
  dsimp only at h
  obtain ⟨-, h⟩ := Option.ite_none_left_eq_some.1 h
  obtain ⟨e, he, -⟩ := Option.map_eq_some_iff.1 h
  split at he
  · next rest heq =>
    rw [heq]
    exact List.forall_mem_cons.2
      ⟨rfl, isWordChar_of_takeDigits (isWordChar_of_readExponent? he)⟩
  · exact isWordChar_of_readExponent? he

theorem isWordChar_of_readWord? {s : List Char} {x : Float}
    (h : Decimal.readWord? s = some x) : ∀ c ∈ s, isWordChar c = true := by
  have hword : ∀ word : String, (∀ c ∈ word.toList, c.isAlphanum = true) →
      String.ofList (s.map Char.toLower) = word → ∀ c ∈ s, isWordChar c = true := by
    rintro word hchars rfl c hc
    rw [String.toList_ofList] at hchars
    exact isWordChar_of_isAlphanum
      (isAlphanum_of_toLower (hchars _ (List.mem_map_of_mem hc)))
  unfold Decimal.readWord? at h
  split at h
  · next heq => exact hword _ (List.all_eq_true.1 (by decide)) heq
  · next heq => exact hword _ (List.all_eq_true.1 (by decide)) heq
  · next heq => exact hword _ (List.all_eq_true.1 (by decide)) heq
  · cases h

/-- A number is written without blanks, quotes and marks. -/
theorem isWordChar_of_readFloat? {s : List Char} {x : Float}
    (h : Decimal.readFloat? s = some x) : ∀ c ∈ s, isWordChar c = true := by
  refine isWordChar_of_takeSign ?_
  unfold Decimal.readFloat? at h
  dsimp only at h
  split at h
  · next hd => exact isWordChar_of_readUnsigned? hd
  · obtain ⟨y, hy, -⟩ := Option.map_eq_some_iff.1 h
    exact isWordChar_of_readWord? hy

theorem ne_nil_of_readFloat? {s : List Char} {x : Float} (h : Decimal.readFloat? s = some x) :
    s ≠ [] := by
  rintro rfl
  cases h

/-! ### Operands -/

namespace Operand

theorem chars_cases (o : Operand) :
    (o.chars ≠ [] ∧ ∀ c ∈ o.chars, isWordChar c = true) ∨
      ∃ s, o.chars = '"' :: (s ++ ['"']) ∧ '"' ∉ s := by
  cases o with
  | number word x h => exact .inl ⟨ne_nil_of_readFloat? h, isWordChar_of_readFloat? h⟩
  | bool b => cases b <;> exact .inl ⟨by decide, List.all_eq_true.1 (by decide)⟩
  | name word h =>
      refine .inl ⟨h.ne_nil, fun c hc => ?_⟩
      simp [isWordChar, h.chars c hc]
  | text s h => exact .inr ⟨s, rfl, h⟩

end Operand

/-- A word is a literal or a name. -/
theorem operand_of_word {readings : Readings} {word : List Char} (hne : word ≠ [])
    (hchars : ∀ c ∈ word, isWordChar c = true) :
    operand readings word =
      if String.ofList word = "true" then .ok (.bool true)
      else if String.ofList word = "false" then .ok (.bool false)
      else match Decimal.readFloat? word with
        | some x => .ok (.number x)
        | none =>
          if word.all isNameChar then
            match readings[String.ofList word]? with
            | some r => .ok (.ofReading r)
            | none => .error (.unknownVariable (String.ofList word))
          else .error (.malformed (.invalidOperand (String.ofList word))) := by
  cases word with
  | nil => exact absurd rfl hne
  | cons c word =>
      have hquote : c ≠ '"' := by
        rintro rfl
        cases hchars '"' List.mem_cons_self
      unfold operand
      split
      · next heq => cases heq
      · next heq => exact absurd (List.cons.inj heq).1 hquote
      · rfl

/-- An operand is read as it is written. -/
theorem operand_chars (readings : Readings) (o : Operand) :
    operand readings o.chars = o.value readings := by
  cases o with
  | number word x h =>
      have hne : ∀ s : String, Decimal.readFloat? s.toList = none → String.ofList word ≠ s := by
        rintro s hs rfl
        rw [String.toList_ofList, h] at hs
        cases hs
      rw [Operand.chars, operand_of_word (ne_nil_of_readFloat? h) (isWordChar_of_readFloat? h),
        if_neg (hne _ (by decide)), if_neg (hne _ (by decide)), h]
      rfl
  | bool b => cases b <;> rfl
  | name word h =>
      have hchars : ∀ c ∈ word, isWordChar c = true := fun c hc => by
        simp [isWordChar, h.chars c hc]
      rw [Operand.chars, operand_of_word h.ne_nil hchars, if_neg h.ne_true, if_neg h.ne_false,
        h.not_number]
      refine (if_pos (List.all_eq_true.2 h.chars)).trans ?_
      rw [Operand.value]
      rcases readings[String.ofList word]? with _ | x | s <;> rfl
  | text s h =>
      have hlast : (s ++ ['"']).getLast? = some '"' := List.getLast?_concat
      simp only [Operand.chars, operand, hlast, if_true, List.dropLast_concat]
      rfl

/-! ### Texts between blanks -/

theorem trimStart_append {before s : List Char} (hbefore : Blanks before)
    (hs : ∀ c ∈ s.head?, isBlank c = false) : trimStart (before ++ s) = s := by
  rw [trimStart, List.dropWhile_append_of_pos hbefore]
  cases s with
  | nil => rfl
  | cons c s => exact List.dropWhile_cons_of_neg (Bool.not_eq_true _ ▸ hs c rfl)

theorem trimEnd_append {s after : List Char} (hafter : Blanks after)
    (hs : ∀ c ∈ s.getLast?, isBlank c = false) : trimEnd (s ++ after) = s := by
  have hstart : trimStart (after.reverse ++ s.reverse) = s.reverse :=
    trimStart_append (fun c hc => hafter c (List.mem_reverse.1 hc)) (by rwa [List.head?_reverse])
  rw [trimEnd, List.reverse_append]
  exact (congrArg List.reverse hstart).trans s.reverse_reverse

/-- A text without blanks at its two ends. -/
structure Solid (s : List Char) : Prop where
  ne_nil : s ≠ []
  head : ∀ c ∈ s.head?, isBlank c = false
  last : ∀ c ∈ s.getLast?, isBlank c = false

namespace Solid

variable {s t : List Char}

theorem of_forall (hne : s ≠ []) (h : ∀ c ∈ s, isBlank c = false) : Solid s :=
  ⟨hne, fun c hc => h c (List.mem_of_mem_head? hc), fun c hc => h c (List.mem_of_getLast? hc)⟩

theorem join (hs : Solid s) (ht : Solid t) (middle : List Char) : Solid (s ++ (middle ++ t)) where
  ne_nil := List.append_ne_nil_of_left_ne_nil hs.ne_nil _
  head := by
    rw [List.head?_append_of_ne_nil _ hs.ne_nil]
    exact hs.head
  last := by
    rw [← List.append_assoc, List.getLast?_append_of_ne_nil _ ht.ne_nil]
    exact ht.last

theorem head_append (hs : Solid s) (t : List Char) : ∀ c ∈ (s ++ t).head?, isBlank c = false := by
  rw [List.head?_append_of_ne_nil _ hs.ne_nil]
  exact hs.head

theorem last_append (ht : Solid t) (s : List Char) :
    ∀ c ∈ (s ++ t).getLast?, isBlank c = false := by
  rw [List.getLast?_append_of_ne_nil _ ht.ne_nil]
  exact ht.last

theorem trim_eq (hs : Solid s) {before after : List Char} (hbefore : Blanks before)
    (hafter : Blanks after) : trim (before ++ (s ++ after)) = s := by
  rw [trim, trimStart_append hbefore (hs.head_append after), trimEnd_append hafter hs.last]

end Solid

theorem Operand.solid (o : Operand) : Solid o.chars := by
  rcases o.chars_cases with ⟨hne, hchars⟩ | ⟨s, heq, -⟩
  · exact .of_forall hne fun c hc => not_isBlank_of_isWordChar (hchars c hc)
  · rw [heq]
    have hquote : Solid ['"'] :=
      .of_forall (List.cons_ne_nil _ _) (List.forall_mem_singleton.2 rfl)
    exact hquote.join hquote s

theorem Clause.Core.solid {c : Clause} {s : List Char} (h : c.Core s) : Solid s := by
  cases h with
  | single o => exact o.solid
  | @compare left op right before after hbefore hafter =>
      simpa only [List.append_assoc] using
        left.solid.join right.solid (before ++ (op.sign ++ after))

/-! ### What scans pass over -/

/-- A character that stands between signs outside of quotes. -/
def isLoose (c : Char) : Bool := isWordChar c || isBlank c

theorem not_isSignChar_of_isLoose {c : Char} (h : isLoose c = true) :
    Comparison.isSignChar c = false := by
  rw [← Bool.not_eq_true]
  intro hsign
  simp only [Comparison.isSignChar, Bool.or_eq_true, beq_iff_eq] at hsign
  rcases hsign with ((rfl | rfl) | rfl) | rfl <;> cases h

theorem outside_of_isLoose {s : List Char} (h : ∀ c ∈ s, isLoose c = true) :
    Outside (isLoose · = true) s := by
  refine .of_forall fun c hc => ⟨?_, h c hc⟩
  rintro rfl
  cases h '"' hc

theorem Blanks.outside {s : List Char} (h : Blanks s) : Outside (isLoose · = true) s :=
  outside_of_isLoose fun c hc => by simp [isLoose, h c hc]

theorem Operand.outside (o : Operand) : Outside (isLoose · = true) o.chars := by
  rcases o.chars_cases with ⟨-, hchars⟩ | ⟨s, heq, hs⟩
  · exact outside_of_isLoose fun c hc => by simp [isLoose, hchars c hc]
  · rw [heq]
    exact .quoted hs .nil

/-- No sign goes on into what stands between signs. -/
theorem head?_ne_of_outside {s : List Char} (h : Outside (isLoose · = true) s) :
    s.head? ≠ some '=' := by
  rintro heq
  cases h with
  | nil => cases heq
  | cons _ hc _ =>
      cases heq
      cases hc
  | quoted _ _ => cases heq

/-- A character of a clause outside of quotes. -/
def IsClauseChar (c : Char) : Prop := isLoose c = true ∨ Comparison.isSignChar c = true

theorem Comparison.outside_sign (op : Comparison) : Outside IsClauseChar op.sign := by
  refine .of_forall ?_
  cases op <;> simp [Comparison.sign, IsClauseChar, Comparison.isSignChar]

theorem Clause.Written.outside {c : Clause} {s : List Char} (h : c.Written s) :
    Outside IsClauseChar s := by
  have hloose {t : List Char} (ht : Outside (isLoose · = true) t) : Outside IsClauseChar t :=
    ht.mono fun _ => .inl
  obtain ⟨hbefore, hcore, hafter⟩ := h
  refine (hloose hbefore.outside).append (.append ?_ (hloose hafter.outside))
  cases hcore with
  | single o => exact hloose o.outside
  | compare left op right hbefore hafter =>
      exact (hloose (left.outside.append hbefore.outside)).append
        (op.outside_sign.append (hloose (hafter.outside.append right.outside)))

theorem IsClauseChar.ne {c mark : Char} (h : IsClauseChar c) (hloose : isLoose mark = false)
    (hsign : Comparison.isSignChar mark = false) : c ≠ mark := by
  rintro rfl
  rcases h with h | h
  · rw [h] at hloose
    cases hloose
  · rw [h] at hsign
    cases hsign

theorem Conjunction.Written.outside {cs : Conjunction} {s : List Char} (h : cs.Written s) :
    Outside (· ≠ '|') s :=
  Joined.outside (by decide) (by decide)
    (fun _ _ hc => hc.outside.mono fun _ hchar => hchar.ne rfl rfl) h

/-! ### Trimming what is written -/

namespace Joined

variable {α : Type} {mark : Char} {writes : α → List Char → Prop}

/-- What is written stays so when the blanks at its start are dropped, whatever follows it. -/
def TrimsStart (writes : α → List Char → Prop) : Prop :=
  ∀ x s, writes x s → ∃ t, writes x t ∧ ∀ rest, trimStart (s ++ rest) = t ++ rest

/-- What is written stays so when the blanks at its end are dropped, whatever stands before
it. -/
def TrimsEnd (writes : α → List Char → Prop) : Prop :=
  ∀ x s, writes x s → ∃ t, writes x t ∧ ∀ front, trimEnd (front ++ s) = front ++ t

theorem trimsStart (h : TrimsStart writes) : TrimsStart (Joined mark writes) := by
  intro xs s hs
  cases hs with
  | single hx =>
      obtain ⟨t, ht, htrim⟩ := h _ _ hx
      exact ⟨t, .single ht, htrim⟩
  | cons hx hrest =>
      obtain ⟨t, ht, htrim⟩ := h _ _ hx
      refine ⟨_, .cons ht hrest, fun rest => ?_⟩
      rw [List.append_assoc, htrim, List.append_assoc]

theorem trimsEnd (h : TrimsEnd writes) : TrimsEnd (Joined mark writes) := by
  intro xs s hs
  induction hs with
  | single hx =>
      obtain ⟨t, ht, htrim⟩ := h _ _ hx
      exact ⟨t, .single ht, htrim⟩
  | @cons x s xs rest hx hrest ih =>
      obtain ⟨t, ht, htrim⟩ := ih
      refine ⟨_, .cons hx ht, fun front => ?_⟩
      have hfront := htrim (front ++ (s ++ [mark, mark]))
      simp only [List.append_assoc, List.cons_append, List.nil_append] at hfront ⊢
      exact hfront

end Joined

theorem Clause.Written.trimsStart : Joined.TrimsStart Clause.Written := by
  rintro c s ⟨hbefore, hcore, hafter⟩
  refine ⟨_, .mk Blanks.nil hcore hafter, fun rest => ?_⟩
  rw [List.append_assoc, List.append_assoc, trimStart_append hbefore (hcore.solid.head_append _),
    List.nil_append, List.append_assoc]

theorem Clause.Written.trimsEnd : Joined.TrimsEnd Clause.Written := by
  rintro c s ⟨hbefore, hcore, hafter⟩
  refine ⟨_, .mk hbefore hcore Blanks.nil, fun front => ?_⟩
  rw [← List.append_assoc, ← List.append_assoc, trimEnd_append hafter (hcore.solid.last_append _),
    List.append_nil, List.append_assoc]

/-- A script without the blanks around it is written in the same way. -/
theorem Disjunction.Written.trim {d : Disjunction} {s : List Char} (h : d.Written s) :
    d.Written (trim s) := by
  obtain ⟨t, ht, hstart⟩ :=
    Joined.trimsStart (Joined.trimsStart Clause.Written.trimsStart) _ _ h
  obtain ⟨u, hu, hend⟩ := Joined.trimsEnd (Joined.trimsEnd Clause.Written.trimsEnd) _ _ ht
  have hs : Text.trim s = u := by
    have hstart' := hstart []
    rw [List.append_nil, List.append_nil] at hstart'
    rw [Text.trim, hstart']
    exact hend []
  rw [hs]
  exact hu

theorem Clause.Written.ne_nil {c : Clause} {s : List Char} (h : c.Written s) : s ≠ [] := by
  obtain ⟨-, hcore, -⟩ := h
  exact List.append_ne_nil_of_right_ne_nil _
    (List.append_ne_nil_of_left_ne_nil hcore.solid.ne_nil _)

theorem Disjunction.Written.ne_nil {d : Disjunction} {s : List Char} (h : d.Written s) :
    s ≠ [] := by
  have hjoined {α : Type} {mark : Char} {writes : α → List Char → Prop} {xs : List α}
      {t : List Char} (hwrites : ∀ x t, writes x t → t ≠ []) (ht : Joined mark writes xs t) :
      t ≠ [] := by
    cases ht with
    | single hx => exact hwrites _ _ hx
    | cons hx _ => exact List.append_ne_nil_of_left_ne_nil (hwrites _ _ hx) _
  exact hjoined (fun _ _ hcs => hjoined (fun _ _ hc => hc.ne_nil) hcs) h

/-! ### Reading what is written -/

namespace Operand

theorem trim_append (o : Operand) {after : List Char} (hafter : Blanks after) :
    trim (o.chars ++ after) = o.chars :=
  o.solid.trim_eq Blanks.nil hafter

theorem append_trim (o : Operand) {before : List Char} (hbefore : Blanks before) :
    trim (before ++ o.chars) = o.chars := by
  have htrim := o.solid.trim_eq hbefore Blanks.nil
  rwa [List.append_nil] at htrim

/-- No sign is found in one operand. -/
theorem find?_chars (o : Operand) : Comparison.find? false o.chars = none :=
  Comparison.find?_of_outside (o.outside.mono fun _ => not_isSignChar_of_isLoose)

/-- The sign is found that stands between two operands. -/
theorem find?_compare (left right : Operand) (op : Comparison) {before after : List Char}
    (hbefore : Blanks before) (hafter : Blanks after) :
    Comparison.find? false ((left.chars ++ before) ++ (op.sign ++ (after ++ right.chars))) =
      some (left.chars ++ before, op, after ++ right.chars) := by
  have hnext : (after ++ right.chars).head? ≠ some '=' :=
    head?_ne_of_outside (hafter.outside.append right.outside)
  rw [Comparison.find?_append
    ((left.outside.append hbefore.outside).mono fun _ => not_isSignChar_of_isLoose),
    Comparison.find?_sign op hnext, Option.map_some, Comparison.passed, List.append_nil]

end Operand

/-- A clause is read as it is written. -/
theorem clause_written (readings : Readings) {c : Clause} {s : List Char} (h : c.Written s) :
    clause readings (trim s) = c.truth readings := by
  obtain ⟨hbefore, hcore, hafter⟩ := h
  have hne := hcore.solid.ne_nil
  rw [hcore.solid.trim_eq hbefore hafter, clause, if_neg (by simpa using hne)]
  cases hcore with
  | single o =>
      rw [o.find?_chars]
      dsimp only
      rw [operand_chars, Clause.truth]
      cases o.value readings with
      | error e => rfl
      | ok v => cases v <;> rfl
  | @compare left op right before after hbefore hafter =>
      rw [left.find?_compare right op hbefore hafter]
      dsimp only
      rw [left.trim_append hbefore, right.append_trim hafter, operand_chars, operand_chars,
        Clause.truth]
      cases left.value readings with
      | error e => rfl
      | ok l =>
          cases right.value readings with
          | error e => rfl
          | ok r => exact op.apply_eq l r

/-- Results are all there, or the error is the one of the leftmost that is not. -/
theorem mapM_eq {ε α : Type} (f : α → Except ε Bool) (xs : List α) :
    xs.mapM f = match xs.findSome? fun x => fault? (f x) with
      | some e => .error e
      | none => .ok (xs.map fun x => isTrue (f x)) := by
  induction xs with
  | nil => rfl
  | cons x xs ih =>
      rw [List.mapM_cons, ih, List.findSome?_cons]
      cases hx : f x with
      | error e => rfl
      | ok b =>
          rw [fault?_ok, List.map_cons, hx, isTrue_ok]
          cases xs.findSome? fun x => fault? (f x) <;> rfl

theorem mapM_of_forall₂ {ε α β γ : Type} {writes : α → β → Prop} {g : β → Except ε γ}
    {f : α → Except ε γ} {xs : List α} {ys : List β} (h : List.Forall₂ writes xs ys)
    (hg : ∀ x y, writes x y → g y = f x) : ys.mapM g = xs.mapM f := by
  induction h with
  | nil => rfl
  | cons hx _ ih => rw [List.mapM_cons, List.mapM_cons, hg _ _ hx, ih]

theorem findSome?_flatten {α β : Type} (f : α → Option β) (xss : List (List α)) :
    xss.flatten.findSome? f = xss.findSome? fun xs => xs.findSome? f := by
  induction xss with
  | nil => rfl
  | cons xs xss ih =>
      rw [List.flatten_cons, List.findSome?_append, List.findSome?_cons, ih]
      cases xs.findSome? f <;> rfl

/-- The truth of a conjunction, or the error of its leftmost clause that has none. -/
def Conjunction.truth (readings : Readings) (cs : Conjunction) : Except ScriptError Bool :=
  match cs.findSome? fun c => fault? (c.truth readings) with
  | some e => .error e
  | none => .ok (cs.all fun c => isTrue (c.truth readings))

theorem Conjunction.fault?_truth (readings : Readings) (cs : Conjunction) :
    fault? (cs.truth readings) = cs.findSome? fun c => fault? (c.truth readings) := by
  unfold Conjunction.truth
  cases cs.findSome? fun c => fault? (c.truth readings) <;> rfl

theorem conjunction_written (readings : Readings) {cs : Conjunction} {s : List Char}
    (h : cs.Written s) : conjunction readings s = cs.truth readings := by
  have hparts := Joined.forall₂_splitDoubled (by decide)
    (fun _ _ hc => hc.outside.mono fun _ hchar => hchar.ne rfl rfl) h
  rw [conjunction, mapM_of_forall₂ hparts fun _ _ hc => clause_written readings hc, mapM_eq,
    Conjunction.truth]
  cases cs.findSome? fun c => fault? (c.truth readings) with
  | some e => rfl
  | none => exact congrArg Except.ok List.all_map

/-- A script that is written from its terms has the truth of its terms, or the error of the
leftmost clause that has none. -/
theorem evaluate_written (readings : Readings) {d : Disjunction} {script : String}
    (h : d.Written script.toList) : evaluate readings script = d.truth readings := by
  have hparts := Joined.forall₂_splitDoubled (by decide) (fun _ _ hcs => hcs.outside) h.trim
  have hfaults : (d.findSome? fun cs => fault? (cs.truth readings)) =
      d.flatten.findSome? fun c => fault? (c.truth readings) := by
    simp only [Conjunction.fault?_truth, findSome?_flatten]
  rw [evaluate, if_neg (by simpa using h.trim.ne_nil),
    mapM_of_forall₂ hparts fun _ _ hcs => conjunction_written readings hcs, mapM_eq, hfaults,
    Disjunction.truth]
  cases hfault : d.flatten.findSome? fun c => fault? (c.truth readings) with
  | some e => rfl
  | none =>
      have hclauses : ∀ cs ∈ d, ∀ c ∈ cs, fault? (c.truth readings) = none := by
        intro cs hcs c hc
        exact List.findSome?_eq_none_iff.1 hfault c (List.mem_flatten_of_mem hcs hc)
      have hcs : ∀ cs ∈ d, isTrue (cs.truth readings) =
          cs.all fun c => isTrue (c.truth readings) := by
        intro cs hcs
        rw [Conjunction.truth, List.findSome?_eq_none_iff.2 (hclauses cs hcs), isTrue_ok]
      have hany : (d.map fun cs => isTrue (cs.truth readings)).any id =
          d.any fun cs => cs.all fun c => isTrue (c.truth readings) := by
        rw [List.map_congr_left hcs, List.any_map]
        rfl
      exact congrArg Except.ok hany

namespace Sample

def latency : Operand :=
  .name ['r', 't', 't']
    ⟨by decide, List.all_eq_true.1 (by decide), by decide, by decide, by decide⟩

def limit : Operand := .number ['5', '0', '0'] ((Decimal.readFloat? ['5', '0', '0']).getD 0) rfl

def mode : Operand :=
  .name ['m', 'o', 'd', 'e']
    ⟨by decide, List.all_eq_true.1 (by decide), by decide, by decide, by decide⟩

def alternatives : Operand := .text ['a', '|', '|', 'b'] (by decide)

/-- The latency is below its limit and the mode is a text with bars in it, or nothing holds. -/
def disjunction : Disjunction :=
  [[.compare latency .lt limit, .compare mode .eq alternatives], [.single (.bool false)]]

def script : String := "rtt<500&& mode == \"a||b\" ||false"

theorem written : disjunction.Written script.toList := by
  have hnone : Blanks [] := .nil
  have hblank : Blanks [' '] := List.forall_mem_singleton.2 rfl
  have hlatency : (Clause.compare latency .lt limit).Written "rtt<500".toList :=
    .mk hnone (.compare latency .lt limit hnone hnone) hnone
  have hmode : (Clause.compare mode .eq alternatives).Written " mode == \"a||b\" ".toList :=
    .mk hblank (.compare mode .eq alternatives hblank hblank) hblank
  have hfalse : (Clause.single (.bool false)).Written "false".toList :=
    .mk hnone (.single (.bool false)) hnone
  have hboth : Conjunction.Written _ ("rtt<500".toList ++ '&' :: '&' :: _) :=
    Joined.cons hlatency (.single hmode)
  exact Joined.cons hboth (.single (.single hfalse))

/-- A latency, and the mode that the script asks for. -/
def measured (latency : Reading) : Readings :=
  Readings.setText (Readings.empty.insert "rtt" latency) "mode" "a||b"

def readings : Readings := measured (.number 120.0)

end Sample

/-- The script holds of a latency below the limit, and of its text too, but not of one above. A
text that is no number cannot be compared with the limit, and without a latency there is no value
to compare. -/
theorem evaluate_written_sample :
    Sample.disjunction.Written Sample.script.toList ∧
      evaluate Sample.readings Sample.script = .ok true ∧
      evaluate (Sample.measured (.text " 120 ")) Sample.script = .ok true ∧
      evaluate (Sample.measured (.number 500.0)) Sample.script = .ok false ∧
      evaluate (Sample.measured (.text "fast")) Sample.script =
        .error (.typeMismatch "string" "number") ∧
      evaluate .empty Sample.script = .error (.unknownVariable "rtt") := by
  have htruth (m : Readings) : evaluate m Sample.script = Sample.disjunction.truth m :=
    evaluate_written m Sample.written
  simp only [htruth]
  exact ⟨Sample.written, by decide +kernel⟩

end Vigil.Script
