import Vigil.Json.Token
import Vigil.Json.Writer
import Vigil.Proofs.Decimal.Numerals

/-!
# The tokens of written values

A written value is read token by token: each bracket, comma, colon, word, number and
text is one token (`spells_chars`). A number is the only token whose end is not seen
from itself, and so what follows it must not go on with it (`EndsNumber`).
-/

namespace Vigil.Json

open Decimal

/-! ### Numbers -/

/-- A text that does not go on with a number that stands before it. -/
def EndsNumber (s : List Char) : Prop :=
  ∀ c ∈ s.head?, c.isDigit = false ∧ c ≠ '.' ∧ c ≠ 'e' ∧ c ≠ 'E'

theorem endsNumber_nil : EndsNumber [] := by simp [EndsNumber]

theorem endsNumber_cons {c : Char} (h : c = ',' ∨ c = ']' ∨ c = '}') (s : List Char) :
    EndsNumber (c :: s) := by
  rcases h with rfl | rfl | rfl <;> simp [EndsNumber]

theorem EndsNumber.append {s t : List Char} (hs : EndsNumber s) (ht : EndsNumber t) :
    EndsNumber (s ++ t) := by
  cases s with
  | nil => exact ht
  | cons c s => exact hs

theorem takeDigits_append {digits : List Char} (hdigits : ∀ c ∈ digits, c.isDigit = true)
    {rest : List Char} (hrest : ∀ c ∈ rest.head?, c.isDigit = false) :
    takeDigits (digits ++ rest) = (digits, rest) := by
  have hend : rest.takeWhile Char.isDigit = [] ∧ rest.dropWhile Char.isDigit = rest := by
    cases rest with
    | nil => exact ⟨rfl, rfl⟩
    | cons c rest =>
        have hc : c.isDigit = false := hrest c rfl
        simp [hc]
  rw [takeDigits, List.takeWhile_append_of_pos hdigits, List.dropWhile_append_of_pos hdigits,
    hend.1, hend.2, List.append_nil]

namespace Token

theorem readExponent?_text (e : Option Int) {rest : List Char} (h : EndsNumber rest) :
    readExponent? (Numeral.exponentText e ++ rest) = some (e, rest) := by
  cases e with
  | none =>
      cases rest with
      | nil => rfl
      | cons c rest =>
          have hc := h c rfl
          simp [Numeral.exponentText, readExponent?, hc.2.2]
  | some e =>
      have htake : takeDigits (Nat.toDigits 10 e.natAbs ++ rest) =
          (Nat.toDigits 10 e.natAbs, rest) :=
        takeDigits_append (fun _ => isDigit_of_mem_toDigits) fun c hc => (h c hc).1
      have hne : (Nat.toDigits 10 e.natAbs).isEmpty = false := by
        simp [Nat.toDigits_ne_nil]
      simp only [Numeral.exponentText, List.cons_append, readExponent?, true_or, if_true]
      by_cases hneg : e < 0
      · have hvalue : -(e.natAbs : Int) = e := by omega
        simp only [if_pos hneg, takeSign, htake, hne, ofDigits_toDigits, Bool.false_eq_true,
          if_false, if_true, hvalue]
      · have hvalue : (e.natAbs : Int) = e := by omega
        simp only [if_neg hneg, takeSign, htake, hne, ofDigits_toDigits, Bool.false_eq_true,
          if_false, hvalue]

theorem takeMinus_text (negative : Bool) {s : List Char} (h : ∀ c ∈ s.head?, c.isDigit = true) :
    takeMinus ((if negative then ['-'] else []) ++ s) = (negative, s) := by
  cases negative with
  | true => rfl
  | false =>
      unfold takeMinus
      split
      · next rest heq =>
        have hs : s = '-' :: rest := heq
        rw [hs] at h
        exact absurd (h '-' rfl) (by decide)
      · rfl

theorem readFraction?_text {fraction : List Char} (hdigits : ∀ c ∈ fraction, c.isDigit = true)
    {rest : List Char} (h : ∀ c ∈ rest.head?, c.isDigit = false ∧ c ≠ '.') :
    readFraction? ((if fraction.isEmpty then [] else '.' :: fraction) ++ rest) =
      some (fraction, rest) := by
  cases fraction with
  | nil =>
      unfold readFraction?
      split
      · next heq =>
        rw [List.isEmpty_nil, if_pos rfl, List.nil_append] at heq
        rw [heq] at h
        exact absurd rfl (h '.' rfl).2
      · rfl
  | cons c fraction =>
      have htake : takeDigits ((c :: fraction) ++ rest) = (c :: fraction, rest) :=
        takeDigits_append hdigits fun c hc => (h c hc).1
      simp only [List.isEmpty_cons, Bool.false_eq_true, if_false, List.cons_append,
        readFraction?] at htake ⊢
      simp [htake]

/-- Neither a digit nor a point follows the digits after the point. -/
theorem endsFraction_exponentText (e : Option Int) {rest : List Char} (h : EndsNumber rest) :
    ∀ c ∈ (Numeral.exponentText e ++ rest).head?, c.isDigit = false ∧ c ≠ '.' := by
  cases e with
  | none => exact fun c hc => ⟨(h c hc).1, (h c hc).2.1⟩
  | some e => simp [Numeral.exponentText]

/-- A numeral is read as it is written. -/
theorem readNumber?_text {n : Numeral} (hn : n.WellFormed) {rest : List Char}
    (h : EndsNumber rest) : readNumber? (n.text ++ rest) = some (n, rest) := by
  obtain ⟨negative, whole, fraction, exponent⟩ := n
  obtain ⟨hne, hwhole, hhead, hfraction⟩ := hn
  dsimp only at hne hwhole hhead hfraction
  have hends := endsFraction_exponentText exponent h
  let after := (if fraction.isEmpty then [] else '.' :: fraction) ++
    (Numeral.exponentText exponent ++ rest)
  have hminus : takeMinus ((if negative then ['-'] else []) ++ (whole ++ after)) =
      (negative, whole ++ after) := by
    refine takeMinus_text negative ?_
    intro c hc
    rw [List.head?_append, List.head?_eq_some_head hne] at hc
    exact hwhole c (List.mem_of_mem_head? (by rwa [List.head?_eq_some_head hne]))
  have hdigits : takeDigits (whole ++ after) = (whole, after) := by
    refine takeDigits_append hwhole ?_
    cases fraction with
    | nil => exact fun c hc => (hends c hc).1
    | cons c fraction => simp [after]
  have hzero : (whole.isEmpty || (whole.length > 1 && whole.head? == some '0')) = false := by
    simpa [hne] using hhead
  have htext : Numeral.text ⟨negative, whole, fraction, exponent⟩ ++ rest =
      (if negative then ['-'] else []) ++ (whole ++ after) := by
    simp only [Numeral.text, after, List.append_assoc]
  rw [readNumber?, htext, hminus]
  simp only [hdigits, hzero, after, readFraction?_text hfraction hends, Bool.false_eq_true,
    if_false, Option.bind_eq_bind, Option.bind_some, readExponent?_text _ h, Option.pure_def]

/-! ### Texts -/

theorem hexDigit?_digitChar {n : Nat} (h : n < 16) : hexDigit? (Nat.digitChar n) = some n := by
  revert n
  decide

/-- A character that needs no escape stands for itself. -/
theorem readText?_cons {c : Char} (hquote : c ≠ '"') (hslash : c ≠ '\\') (hcontrol : 0x20 ≤ c.toNat)
    (rest : List Char) :
    readText? (c :: rest) = (readText? rest).map fun (s, r) => (s.map (c :: ·), r) := by
  rw [readText?.eq_def]
  split
  · next heq => cases heq
  · next heq => exact absurd (List.cons.inj heq).1 hquote
  · next heq => exact absurd (List.cons.inj heq).1 hslash
  · next heq => exact absurd (List.cons.inj heq).1 hslash
  · next heq =>
    obtain ⟨rfl, rfl⟩ := List.cons.inj heq
    rw [if_neg]
    rintro (hlt | heq)
    · omega
    · exact hslash heq

/-- The numeric escape of a character below the blank is read as the character. -/
theorem readText?_numericEscape {c : Char} (h : c.toNat < 0x20) (rest : List Char) :
    readText? ('\\' :: 'u' :: '0' :: '0' :: Nat.digitChar (c.toNat / 16) ::
        Nat.digitChar (c.toNat % 16) :: rest) =
      (readText? rest).map fun (s, r) => (s.map (c :: ·), r) := by
  have hunit : unit? '0' '0' (Nat.digitChar (c.toNat / 16)) (Nat.digitChar (c.toNat % 16)) =
      some c.toNat := by
    have hzero : hexDigit? '0' = some 0 := rfl
    simp only [unit?, hzero, hexDigit?_digitChar (show c.toNat / 16 < 16 by omega),
      hexDigit?_digitChar (show c.toNat % 16 < 16 by omega), Option.bind_eq_bind,
      Option.bind_some, Option.pure_def, Option.some.injEq]
    omega
  have hleading : isLeading c.toNat = false := by
    simp only [isLeading]
    grind
  have htrailing : isTrailing c.toNat = false := by
    simp only [isTrailing]
    grind
  simp only [readText?, hunit, hleading, htrailing, Bool.false_eq_true, if_false,
    Char.ofNat_toNat]

/-- An escaped character is read as the character. -/
theorem readText?_escapeChar (c : Char) (rest : List Char) :
    readText? (escapeChar c ++ rest) =
      (readText? rest).map fun (s, r) => (s.map (c :: ·), r) := by
  unfold escapeChar
  -- Seven characters have an escape of their own.
  iterate 7
    split
    · next h => rw [h]; rfl
  split
  · next h => exact readText?_numericEscape h rest
  · next hquote hslash _ _ _ _ _ hcontrol =>
    exact readText?_cons hquote hslash (by omega) rest

/-- A text between quotes is read as it was before it was quoted. -/
theorem readText?_quoted (s rest : List Char) :
    readText? (s.flatMap escapeChar ++ '"' :: rest) = some (some s, rest) := by
  induction s with
  | nil => rfl
  | cons c s ih =>
      rw [List.flatMap_cons, List.append_assoc, readText?_escapeChar, ih]
      rfl

/-! ### Tokens in general -/

theorem read?_number {s : List Char} (h : ∀ c ∈ s.head?, c = '-' ∨ c.isDigit = true) :
    read? s = (readNumber? s).map fun (n, r) => (number n, r) := by
  rw [read?.eq_def]
  split <;> first | rfl | (exfalso; revert h; simp)

/-- A number starts with a minus or a digit. -/
theorem exists_text_eq {n : Numeral} (h : n.WellFormed) :
    ∃ c s, n.text = c :: s ∧ (c = '-' ∨ c.isDigit = true) := by
  obtain ⟨c, whole, hwhole⟩ := List.exists_cons_of_ne_nil h.whole_ne_nil
  have hc : c.isDigit = true := h.isDigit_whole c (by rw [hwhole]; exact List.mem_cons_self)
  cases hnegative : n.negative with
  | true => exact ⟨'-', _, by rw [Numeral.text, hnegative]; rfl, .inl rfl⟩
  | false => exact ⟨c, _, by rw [Numeral.text, hnegative, hwhole]; rfl, .inr hc⟩

theorem readAll?_cons {c : Char} {s rest : List Char} {t : Token} (hblank : isBlank c = false)
    (hread : read? (c :: s) = some (t, rest)) (fuel : Nat) :
    readAll? (fuel + 1) (c :: s) = (readAll? fuel rest).map (t :: ·) := by
  rw [readAll?, List.dropWhile_cons_of_neg (by simp [hblank])]
  simp only [hread, Option.bind_eq_bind, Option.bind_some]
  cases readAll? fuel rest <;> rfl

end Token

/-! ### Values -/

/-- A value that can be written and read back: its numbers are written as numbers are,
and nothing in it is unreadable. -/
inductive Writable : Json → Prop
  | null : Writable .null
  | bool (b : Bool) : Writable (.bool b)
  | number {n : Numeral} (h : n.WellFormed) : Writable (.number n)
  | text (s : String) : Writable (.text s)
  | array {items : List Json} (h : ∀ v ∈ items, Writable v) : Writable (.array items)
  | object {fields : List (String × Json)} (h : ∀ f ∈ fields, Writable f.2) :
    Writable (.object fields)

mutual

/-- The tokens of a value as it is written. -/
def tokens : Json → List Token
  | .null => [.null]
  | .bool b => [.bool b]
  | .number n => [.number n]
  | .text s => [.text (some s)]
  | .array items => .openArray :: itemTokens items ++ [.closeArray]
  | .object fields => .openObject :: fieldTokens fields ++ [.closeObject]
  | .unreadable => [.null]

/-- The tokens of the members of an array. -/
def itemTokens : List Json → List Token
  | [] => []
  | [v] => tokens v
  | v :: w :: rest => tokens v ++ .comma :: itemTokens (w :: rest)

/-- The tokens of the members of an object. -/
def fieldTokens : List (String × Json) → List Token
  | [] => []
  | [(name, v)] => .text (some name) :: .colon :: tokens v
  | (name, v) :: w :: rest =>
    .text (some name) :: .colon :: tokens v ++ .comma :: fieldTokens (w :: rest)

end

/-- The text `s` is read as the tokens `ts` in front of whatever does not go on with a number. -/
structure Spells (s : List Char) (ts : List Token) : Prop where
  length_le : ts.length ≤ s.length
  readAll? {rest : List Char} (h : EndsNumber rest) (fuel : Nat) :
    Token.readAll? (fuel + ts.length) (s ++ rest) = (Token.readAll? fuel rest).map (ts ++ ·)

namespace Spells

variable {s s' : List Char} {ts ts' : List Token}

theorem nil : Spells [] [] := ⟨Nat.le_refl _, by simp⟩

/-- A token that shows where it ends, in front of others. -/
theorem cons {c : Char} (word : List Char) {t : Token} (hblank : Token.isBlank c = false)
    (hread : ∀ rest, Token.read? (c :: (word ++ rest)) = some (t, rest)) (h : Spells s ts) :
    Spells (c :: (word ++ s)) (t :: ts) := by
  constructor
  · have hlength := h.length_le
    simp only [List.length_cons, List.length_append]
    omega
  · intro rest hrest fuel
    rw [List.length_cons, ← Nat.add_assoc, List.cons_append, List.append_assoc,
      Token.readAll?_cons hblank (hread _), h.readAll? hrest, Option.map_map]
    rfl

/-- A token of one character in front of others. -/
theorem mark (c : Char) {t : Token} (hblank : Token.isBlank c = false)
    (hread : ∀ rest, Token.read? (c :: rest) = some (t, rest)) (h : Spells s ts) :
    Spells (c :: s) (t :: ts) :=
  cons [] hblank hread h

theorem append (h : Spells s ts) (h' : Spells s' ts') (hends : EndsNumber s') :
    Spells (s ++ s') (ts ++ ts') := by
  constructor
  · have hlength := h.length_le
    have hlength' := h'.length_le
    simp only [List.length_append]
    omega
  · intro rest hrest fuel
    rw [List.length_append, Nat.add_comm ts.length, ← Nat.add_assoc, List.append_assoc,
      h.readAll? (hends.append hrest), h'.readAll? hrest, Option.map_map]
    simp only [Function.comp_def, List.append_assoc]

theorem number {n : Numeral} (hn : n.WellFormed) : Spells n.text [.number n] := by
  obtain ⟨c, word, htext, hc⟩ := Token.exists_text_eq hn
  have hblank : Token.isBlank c = false := by
    rcases hc with rfl | hdigit
    · rfl
    · rw [Bool.eq_false_iff]
      intro hblank
      simp only [Token.isBlank, Bool.or_eq_true, beq_iff_eq] at hblank
      rcases hblank with ((rfl | rfl) | rfl) | rfl <;> revert hdigit <;> decide
  constructor
  · simp [htext]
  · intro rest hrest fuel
    have hread : Token.read? (c :: (word ++ rest)) = some (.number n, rest) := by
      rw [Token.read?_number (by simpa using hc), ← List.cons_append, ← htext,
        Token.readNumber?_text hn hrest]
      rfl
    rw [htext, List.cons_append]
    exact Token.readAll?_cons hblank hread fuel

theorem quote (name : String) (h : Spells s ts) :
    Spells (Json.quote name ++ s) (.text (some name) :: ts) := by
  have hquote : Json.quote name ++ s =
      '"' :: ((name.toList.flatMap escapeChar ++ ['"']) ++ s) := by
    simp only [Json.quote, List.cons_append]
  rw [hquote]
  refine cons _ rfl ?_ h
  intro rest
  rw [List.append_assoc, List.singleton_append, Token.read?, Token.readText?_quoted]
  simp

/-- The members of an array are read one after another. -/
theorem items {items : List Json} (h : ∀ v ∈ items, Spells v.chars v.tokens) :
    Spells (itemChars items) (itemTokens items) := by
  induction items with
  | nil => exact nil
  | cons v rest ih =>
      have hv := h v List.mem_cons_self
      cases rest with
      | nil => exact hv
      | cons w rest =>
          have hrest := ih fun u hu => h u (List.mem_cons_of_mem v hu)
          exact hv.append (hrest.mark ',' rfl fun _ => rfl) (endsNumber_cons (.inl rfl) _)

/-- So are the members of an object, each with its name. -/
theorem fields {fields : List (String × Json)} (h : ∀ f ∈ fields, Spells f.2.chars f.2.tokens) :
    Spells (fieldChars fields) (fieldTokens fields) := by
  induction fields with
  | nil => exact nil
  | cons f rest ih =>
      obtain ⟨name, v⟩ := f
      have hv : Spells (':' :: v.chars) (.colon :: v.tokens) :=
        (h (name, v) List.mem_cons_self).mark ':' rfl fun _ => rfl
      cases rest with
      | nil => exact hv.quote name
      | cons w rest =>
          have hrest := ih fun u hu => h u (List.mem_cons_of_mem _ hu)
          have hcomma := hrest.mark ',' rfl fun _ => rfl
          have hboth := (hv.append hcomma (endsNumber_cons (.inl rfl) _)).quote name
          simpa [fieldChars, fieldTokens] using hboth

end Spells

/-- A written value is read as its tokens. -/
theorem spells_chars {v : Json} (h : v.Writable) : Spells v.chars v.tokens := by
  induction h with
  | null => exact .cons ['u', 'l', 'l'] rfl (fun _ => rfl) .nil
  | bool b =>
      cases b with
      | true => exact .cons ['r', 'u', 'e'] rfl (fun _ => rfl) .nil
      | false => exact .cons ['a', 'l', 's', 'e'] rfl (fun _ => rfl) .nil
  | number hn => exact .number hn
  | text s => simpa [chars, tokens] using Spells.nil.quote s
  | array _ ih =>
      have hclose : Spells [']'] [.closeArray] := .mark ']' rfl (fun _ => rfl) .nil
      have hitems := (Spells.items ih).append hclose (endsNumber_cons (.inr (.inl rfl)) [])
      exact hitems.mark '[' rfl fun _ => rfl
  | object _ ih =>
      have hclose : Spells ['}'] [.closeObject] := .mark '}' rfl (fun _ => rfl) .nil
      have hfields := (Spells.fields ih).append hclose (endsNumber_cons (.inr (.inr rfl)) [])
      exact hfields.mark '{' rfl fun _ => rfl

/-- The tokens of a written value are all that is found in it. -/
theorem tokens?_chars {v : Json} (h : v.Writable) : tokens? v.chars = some v.tokens := by
  have hspells := spells_chars h
  have hfuel : v.chars.length + 1 = (v.chars.length - v.tokens.length + 1) + v.tokens.length := by
    have := hspells.length_le
    omega
  have hread := hspells.readAll? endsNumber_nil (v.chars.length - v.tokens.length + 1)
  rw [List.append_nil] at hread
  rw [tokens?, hfuel, hread]
  simp [Token.readAll?]

end Vigil.Json
