import Mathlib.Data.List.Basic
import Vigil.Script.Evaluate

/-!
# Scans that know quotes

A script is cut in three scans, at `||`, at `&&` and at a comparison sign. Each scan goes
from the left and stops at marks outside of quotes only. What it passes over is a text
that leaves no quote open and has no mark outside of quotes (`Outside`); from there on the
scan goes as if the text had started after it.
-/

namespace Vigil.Script

/-- A text that leaves no quote open, and whose characters outside of quotes all have a
property. -/
inductive Outside (p : Char → Prop) : List Char → Prop where
  | nil : Outside p []
  | cons {c : Char} {s : List Char} (hc : c ≠ '"') (hp : p c) (hs : Outside p s) :
      Outside p (c :: s)
  | quoted {inner s : List Char} (hinner : '"' ∉ inner) (hs : Outside p s) :
      Outside p ('"' :: (inner ++ '"' :: s))

namespace Outside

variable {p q : Char → Prop} {s t : List Char}

theorem mono (h : Outside p s) (hpq : ∀ c, p c → q c) : Outside q s := by
  induction h with
  | nil => exact .nil
  | cons hc hp _ ih => exact .cons hc (hpq _ hp) ih
  | quoted hinner _ ih => exact .quoted hinner ih

theorem append (hs : Outside p s) (ht : Outside p t) : Outside p (s ++ t) := by
  induction hs with
  | nil => exact ht
  | cons hc hp _ ih => exact .cons hc hp ih
  | quoted hinner _ ih =>
      rw [List.cons_append, List.append_assoc, List.cons_append]
      exact .quoted hinner ih

theorem of_forall (h : ∀ c ∈ s, c ≠ '"' ∧ p c) : Outside p s := by
  induction s with
  | nil => exact .nil
  | cons c s ih =>
      obtain ⟨hc, hp⟩ := h c List.mem_cons_self
      exact .cons hc hp (ih fun d hd => h d (List.mem_cons_of_mem c hd))

end Outside

/-! ### Splitting -/

section

variable {mark c : Char} {inQuotes : Bool} {s t : List Char}

theorem prepend_eq_modifyHead {pieces : List (List Char)} (h : pieces ≠ []) (c : Char) :
    prepend c pieces = pieces.modifyHead (c :: ·) := by
  cases pieces with
  | nil => exact absurd rfl h
  | cons piece pieces => rfl

theorem splitFrom_quote (mark : Char) (inQuotes : Bool) (s : List Char) :
    splitFrom mark inQuotes ('"' :: s) = (splitFrom mark (!inQuotes) s).modifyHead ('"' :: ·) := by
  cases s with
  | nil => rfl
  | cons d s =>
      rw [splitFrom, if_pos rfl, prepend_eq_modifyHead (splitFrom_ne_nil mark _ _)]

/-- A character that is no quote is passed over inside of quotes, and if it is no mark also
outside of them. -/
theorem splitFrom_cons (hc : c ≠ '"') (hmark : inQuotes = true ∨ c ≠ mark) (s : List Char) :
    splitFrom mark inQuotes (c :: s) = (splitFrom mark inQuotes s).modifyHead (c :: ·) := by
  cases s with
  | nil => rfl
  | cons d s =>
      have hpass : ¬((!inQuotes) = true ∧ c = mark ∧ d = mark) := by
        rintro ⟨hout, rfl, -⟩
        rcases hmark with rfl | hne
        · cases hout
        · exact hne rfl
      rw [splitFrom, if_neg hc, if_neg hpass, prepend_eq_modifyHead (splitFrom_ne_nil mark _ _)]

theorem splitFrom_inside (hinner : '"' ∉ s) (t : List Char) :
    splitFrom mark true (s ++ '"' :: t) =
      (splitFrom mark false t).modifyHead (s ++ '"' :: ·) := by
  induction s with
  | nil => exact splitFrom_quote mark true t
  | cons c s ih =>
      obtain ⟨hc, hs⟩ := List.ne_and_not_mem_of_not_mem_cons hinner
      rw [List.cons_append, splitFrom_cons (Ne.symm hc) (.inl rfl), ih hs,
        List.modifyHead_modifyHead]
      rfl

/-- Nothing is cut in a text that has no mark outside of quotes. -/
theorem splitFrom_append (h : Outside (· ≠ mark) s) (t : List Char) :
    splitFrom mark false (s ++ t) = (splitFrom mark false t).modifyHead (s ++ ·) := by
  induction h with
  | nil => exact (congrFun List.modifyHead_id _).symm
  | cons hc hp _ ih =>
      rw [List.cons_append, splitFrom_cons hc (.inr hp), ih, List.modifyHead_modifyHead]
      rfl
  | quoted hinner _ ih =>
      rw [List.cons_append, List.append_assoc, List.cons_append, splitFrom_quote, Bool.not_false,
        splitFrom_inside hinner, ih, List.modifyHead_modifyHead, List.modifyHead_modifyHead]
      simp only [Function.comp_def, List.cons_append, List.append_assoc]

theorem splitFrom_marks (hmark : mark ≠ '"') (t : List Char) :
    splitFrom mark false (mark :: mark :: t) = [] :: splitFrom mark false t := by
  rw [splitFrom, if_neg hmark, if_pos ⟨rfl, rfl, rfl⟩]

end

/-- Texts of some things one after another, with doubled marks between them. -/
inductive Joined {α : Type} (mark : Char) (writes : α → List Char → Prop) :
    List α → List Char → Prop where
  | single {x : α} {s : List Char} (h : writes x s) : Joined mark writes [x] s
  | cons {x : α} {s : List Char} {xs : List α} {t : List Char} (h : writes x s)
      (hrest : Joined mark writes xs t) : Joined mark writes (x :: xs) (s ++ mark :: mark :: t)

namespace Joined

variable {α : Type} {mark : Char} {writes : α → List Char → Prop} {xs : List α} {s : List Char}

/-- What was joined is cut again where it was joined. -/
theorem forall₂_splitDoubled (hmark : mark ≠ '"')
    (hwrites : ∀ x s, writes x s → Outside (· ≠ mark) s) (h : Joined mark writes xs s) :
    List.Forall₂ writes xs (splitDoubled mark s) := by
  unfold splitDoubled
  induction h with
  | single h =>
      have hsplit := splitFrom_append (hwrites _ _ h) []
      rw [List.append_nil, splitFrom, List.modifyHead_cons, List.append_nil] at hsplit
      rw [hsplit]
      exact .cons h .nil
  | cons h _ ih =>
      rw [splitFrom_append (hwrites _ _ h), splitFrom_marks hmark, List.modifyHead_cons,
        List.append_nil]
      exact .cons h ih

theorem outside {p : Char → Prop} (hquote : mark ≠ '"') (hmark : p mark)
    (hwrites : ∀ x s, writes x s → Outside p s) (h : Joined mark writes xs s) : Outside p s := by
  induction h with
  | single h => exact hwrites _ _ h
  | cons h _ ih => exact (hwrites _ _ h).append (.cons hquote hmark (.cons hquote hmark ih))

end Joined

/-! ### Comparison signs -/

namespace Comparison

/-- The sign of a comparison. -/
def sign : Comparison → List Char
  | eq => ['=', '=']
  | ne => ['!', '=']
  | lt => ['<']
  | le => ['<', '=']
  | gt => ['>']
  | ge => ['>', '=']

/-- Whether a comparison sign may start or end with a character. -/
def isSignChar (c : Char) : Bool := c == '=' || c == '!' || c == '<' || c == '>'

theorem atStart?_of_not_isSignChar {c : Char} (h : isSignChar c = false) (s : List Char) :
    atStart? (c :: s) = none := by
  unfold atStart?
  split <;> first | rfl | (rename_i heq; cases heq; cases h)

theorem atStart?_sign (op : Comparison) {s : List Char} (h : s.head? ≠ some '=') :
    atStart? (op.sign ++ s) = some (op, s) := by
  cases op with
  | lt | gt =>
      cases s with
      | nil => rfl
      | cons c s =>
          have hc : c ≠ '=' := fun heq => h (congrArg some heq)
          simp [sign, atStart?, hc]
  | _ => rfl

variable {s : List Char}

/-- The text in front of the sign grows by what was passed over. -/
def passed (s : List Char) (r : List Char × Comparison × List Char) :
    List Char × Comparison × List Char := (s ++ r.1, r.2)

theorem find?_quote (inQuotes : Bool) (s : List Char) :
    find? inQuotes ('"' :: s) = (find? (!inQuotes) s).map (passed ['"']) := by
  rw [find?.eq_def]
  exact if_pos rfl

theorem find?_cons {c : Char} {inQuotes : Bool} (hc : c ≠ '"')
    (hsign : inQuotes = true ∨ isSignChar c = false) (s : List Char) :
    find? inQuotes (c :: s) = (find? inQuotes s).map (passed [c]) := by
  rw [find?.eq_def]
  refine (if_neg hc).trans ?_
  rcases hsign with rfl | hsign
  · rfl
  · rw [atStart?_of_not_isSignChar hsign]
    cases inQuotes <;> rfl

theorem find?_inside (hinner : '"' ∉ s) (t : List Char) :
    find? true (s ++ '"' :: t) = (find? false t).map (passed (s ++ ['"'])) := by
  induction s with
  | nil => exact find?_quote true t
  | cons c s ih =>
      obtain ⟨hc, hs⟩ := List.ne_and_not_mem_of_not_mem_cons hinner
      rw [List.cons_append, find?_cons (Ne.symm hc) (.inl rfl), ih hs, Option.map_map]
      rfl

/-- No sign is found in a text that has none outside of quotes. -/
theorem find?_append (h : Outside (isSignChar · = false) s) (t : List Char) :
    find? false (s ++ t) = (find? false t).map (passed s) := by
  induction h with
  | nil => exact Option.map_id'.symm
  | cons hc hp _ ih =>
      rw [List.cons_append, find?_cons hc (.inr hp), ih, Option.map_map]
      rfl
  | quoted hinner _ ih =>
      rw [List.cons_append, List.append_assoc, List.cons_append, find?_quote, Bool.not_false,
        find?_inside hinner, ih, Option.map_map, Option.map_map]
      refine congrArg (Option.map · _) (funext fun r => ?_)
      simp only [Function.comp_apply, passed, List.cons_append, List.append_assoc, List.nil_append]

theorem find?_of_outside (h : Outside (isSignChar · = false) s) : find? false s = none := by
  have hfind := find?_append h []
  rwa [List.append_nil] at hfind

theorem find?_sign (op : Comparison) (h : s.head? ≠ some '=') :
    find? false (op.sign ++ s) = some ([], op, s) := by
  obtain ⟨c, rest, hsign, hc⟩ : ∃ c rest, op.sign = c :: rest ∧ c ≠ '"' := by
    cases op <;> exact ⟨_, _, rfl, by decide⟩
  have hstart := atStart?_sign op h
  rw [hsign, List.cons_append] at hstart ⊢
  rw [find?.eq_def]
  refine (if_neg hc).trans ?_
  rw [hstart]

end Comparison

end Vigil.Script
