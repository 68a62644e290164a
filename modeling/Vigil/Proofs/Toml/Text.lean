import Vigil.Toml.Text

/-!
# Texts are read as they were written

Whatever a text holds, `Quoting.best` chooses a way to write it that is read back as the text.
Between double quotes this holds of every text, since what cannot stand for itself is escaped.
Between single quotes it holds of the texts that they are chosen for. In a text of several
lines, the quotes that stand at its end run into the closing ones and are told apart from them
last; so what is read is followed along with the quotes that are pending.
-/

namespace Vigil.Toml

variable {c : Char} {s rest : List Char}

/-! ### Escapes -/

theorem coded?_hexDigits : ∀ n < 128, coded? (hexDigits n) = some (Char.ofNat n) := by
  decide

/-- What follows a backslash where a character is escaped. -/
inductive Escapes (c : Char) : List Char → Prop where
  | letter {x : Char} (h : escaped? x = some c) : Escapes c [x]
  | number (h : c.toNat < 128) : Escapes c ('u' :: hexDigits c.toNat)

/-- Characters that cannot stand for themselves are low. -/
theorem toNat_lt_of_not_isPlain (h : isPlain c = false) : c.toNat < 128 := by
  simp only [isPlain, Bool.or_eq_false_iff, Bool.and_eq_false_iff, decide_eq_false_iff_not,
    bne_eq_false_iff_eq] at h
  omega

/-- What may stand in a text of several lines is no carriage return. -/
theorem ne_return (h : c = '\n' ∨ isPlain c = true) : c ≠ '\r' := by
  rintro rfl
  revert h
  decide

/-- A character between double quotes stands for itself, or it is escaped. -/
theorem escape_cases (long : Bool) (quotes : Nat) (c : Char) :
    (escape long quotes c = [c] ∧ c ≠ '\\' ∧ (c = '"' → long = true ∧ quotes < 2) ∧
      (c = '\n' ∧ long = true ∨ isPlain c = true)) ∨
    ∃ s, escape long quotes c = '\\' :: s ∧ Escapes c s := by
  unfold escape
  split
  · next h =>
    subst h
    cases long with
    | false => exact .inr ⟨_, rfl, .letter rfl⟩
    | true =>
        by_cases hquotes : 2 ≤ quotes
        · exact .inr ⟨_, if_pos hquotes, .letter rfl⟩
        · exact .inl ⟨if_neg hquotes, by decide, fun _ => ⟨rfl, by omega⟩, .inr (by decide)⟩
  · next hquote =>
    split
    · next h =>
      subst h
      exact .inr ⟨_, rfl, .letter rfl⟩
    · next hslash =>
      split
      · next h =>
        cases long with
        | false => exact .inr ⟨_, rfl, .letter (h ▸ rfl)⟩
        | true => exact .inl ⟨h ▸ rfl, hslash, fun h => absurd h hquote, .inl ⟨h, rfl⟩⟩
      · -- Four more characters have an escape of their own.
        iterate 4
          split
          · next h => exact .inr ⟨_, rfl, .letter (h ▸ rfl)⟩
        cases hplain : isPlain c with
        | true => exact .inl ⟨rfl, hslash, fun h => absurd h hquote, .inr rfl⟩
        | false => exact .inr ⟨_, rfl, .number (toNat_lt_of_not_isPlain hplain)⟩

/-! ### Texts of one line -/

theorem readBasic?_escapes (h : Escapes c s) (rest : List Char) :
    readBasic? ('\\' :: s ++ rest) = consRead c (readBasic? rest) := by
  cases h with
  | number h =>
      have hcoded := coded?_hexDigits _ h
      simp only [hexDigits] at hcoded
      simp only [hexDigits, List.cons_append, List.nil_append, readBasic?, hcoded,
        Option.bind_some, Char.ofNat_toNat]
  | letter h =>
      unfold escaped? at h
      split at h <;> cases h <;> rfl

theorem readBasic?_cons (hquote : c ≠ '"') (hslash : c ≠ '\\') (hplain : isPlain c = true)
    (rest : List Char) : readBasic? (c :: rest) = consRead c (readBasic? rest) := by
  rw [readBasic?, if_pos hplain]
  · exact hquote
  · exact fun _ _ _ _ _ heq => absurd heq hslash
  · exact fun _ _ _ _ _ _ _ _ _ heq => absurd heq hslash
  · exact fun _ _ heq => absurd heq hslash

theorem readBasic?_escapeAll (cs : List Char) (quotes : Nat) (rest : List Char) :
    readBasic? (escapeAll false quotes cs ++ '"' :: rest) = some (cs, rest) := by
  induction cs generalizing quotes with
  | nil => rw [escapeAll, List.nil_append, readBasic?]
  | cons c cs ih =>
      rw [escapeAll, List.append_assoc]
      rcases escape_cases false quotes c with ⟨heq, hslash, hquote, hplain⟩ | ⟨s, heq, hescapes⟩
      · have hc : c ≠ '"' := fun h => absurd (hquote h).1 Bool.false_ne_true
        have hplain : isPlain c = true := hplain.resolve_left fun h => absurd h.2 Bool.false_ne_true
        rw [heq, List.singleton_append, readBasic?_cons hc hslash hplain, ih]
        rfl
      · rw [heq, readBasic?_escapes hescapes, ih]
        rfl

theorem readLiteral?_append {cs : List Char} (hplain : ∀ c ∈ cs, isPlain c = true)
    (hquote : '\'' ∉ cs) (rest : List Char) :
    readLiteral? (cs ++ '\'' :: rest) = some (cs, rest) := by
  induction cs with
  | nil => rw [List.nil_append, readLiteral?]
  | cons c cs ih =>
      rw [List.mem_cons, not_or] at hquote
      rw [List.cons_append, readLiteral?, if_pos (hplain c List.mem_cons_self),
        ih (fun d hd => hplain d (List.mem_cons_of_mem c hd)) hquote.2]
      · rfl
      · exact fun heq => hquote.1 heq.symm

/-! ### Texts of several lines -/

/-- The quotes before those that close a text. -/
theorem closeLong_replicate {q : Char} {n : Nat} (hn : n ≤ 2) (hrest : rest.head? ≠ some q) :
    closeLong q (List.replicate n q ++ rest) = (List.replicate n q, rest) := by
  match n, rest with
  | 0, [] => rfl
  | 0, [c] => simp_all [closeLong]
  | 0, c :: d :: rest => simp_all [closeLong]
  | 1, [] => simp [closeLong]
  | 1, c :: rest => simp_all [closeLong]
  | 2, rest => simp [closeLong, List.replicate_succ]

/-- What was read behind other characters. -/
def readAfter (before : List Char) (r : Option (List Char × List Char)) :
    Option (List Char × List Char) :=
  r.map fun (s, rest) => (before ++ s, rest)

theorem readAfter_nil (r : Option (List Char × List Char)) : readAfter [] r = r := by
  cases r <;> rfl

theorem readAfter_cons (c : Char) (before : List Char) (r : Option (List Char × List Char)) :
    readAfter (c :: before) r = consRead c (readAfter before r) := by
  cases r <;> rfl

/-- Reading on in a text of several lines between the quotes `q`: three of them close it, and
fewer stand for themselves. -/
structure ReadsLong (q : Char) (read : List Char → Option (List Char × List Char)) : Prop where
  close : ∀ rest, read (q :: q :: q :: rest) = some (closeLong q rest)
  quote : ∀ more, (∀ rest, more ≠ q :: q :: rest) → read (q :: more) = consRead q (read more)

namespace ReadsLong

variable {q : Char} {read : List Char → Option (List Char × List Char)} {n : Nat}

/-- Up to two quotes stand for themselves if no more quotes follow. -/
theorem read_replicate (h : ReadsLong q read) (hn : n ≤ 2) {x : Char} (hx : x ≠ q)
    (rest : List Char) :
    read (List.replicate n q ++ x :: rest) =
      readAfter (List.replicate n q) (read (x :: rest)) := by
  match n with
  | 0 => rw [List.replicate_zero, List.nil_append, readAfter_nil]
  | 1 =>
      change read (q :: x :: rest) = readAfter [q] _
      rw [h.quote _ fun rest heq => hx (List.cons.inj heq).1, readAfter_cons, readAfter_nil]
  | 2 =>
      change read (q :: q :: x :: rest) = readAfter [q, q] _
      rw [h.quote _ fun rest heq => hx (List.cons.inj (List.cons.inj heq).2).1,
        h.quote _ fun rest heq => hx (List.cons.inj heq).1, readAfter_cons, readAfter_cons,
        readAfter_nil]

/-- The quotes at the end of a text run into those that close it. -/
theorem read_close (h : ReadsLong q read) (hn : n ≤ 2) (hrest : rest.head? ≠ some q) :
    read (List.replicate n q ++ q :: q :: q :: rest) = some (List.replicate n q, rest) := by
  have hfront : List.replicate n q ++ q :: q :: q :: rest =
      q :: q :: q :: (List.replicate n q ++ rest) := by
    match n with
    | 0 => rfl
    | 1 => rfl
    | 2 => rfl
  rw [hfront, h.close, closeLong_replicate hn hrest]

end ReadsLong

/-! ### Texts of several lines between double quotes -/

theorem readsLong_basic : ReadsLong '"' (readLongBasic? false) where
  close rest := by rw [readLongBasic?]
  quote more hmore := by
    rw [readLongBasic?, if_pos (.inr (by decide)), if_neg fun h => absurd h.1 Bool.false_ne_true]
    · exact fun rest _ heq => hmore rest heq
    · decide
    · exact fun _ heq => absurd heq (by decide)

theorem startsLine_dropWhile_isSpace {x : Char} (hspace : isSpace x = false) (hline : x ≠ '\n')
    (hreturn : x ≠ '\r') (rest : List Char) :
    startsLine ((x :: rest).dropWhile isSpace) = false := by
  rw [List.dropWhile_cons_of_neg (by simp [hspace])]
  simp_all [startsLine]

theorem readLongBasic?_escapes (h : Escapes c s) (rest : List Char) :
    readLongBasic? false ('\\' :: s ++ rest) = consRead c (readLongBasic? false rest) := by
  cases h with
  | number h =>
      have hcoded := coded?_hexDigits _ h
      simp only [hexDigits] at hcoded
      have hline := startsLine_dropWhile_isSpace (x := 'u') rfl (by decide) (by decide)
      simp only [hexDigits, List.cons_append, List.nil_append, readLongBasic?, hline, hcoded,
        Option.bind_some, Char.ofNat_toNat, Bool.false_eq_true, if_false]
  | letter h =>
      unfold escaped? at h
      split at h <;> cases h <;> rfl

theorem readLongBasic?_cons (hquote : c ≠ '"') (hslash : c ≠ '\\')
    (hplain : c = '\n' ∨ isPlain c = true) (rest : List Char) :
    readLongBasic? false (c :: rest) = consRead c (readLongBasic? false rest) := by
  rw [readLongBasic?, if_pos hplain, if_neg fun h => absurd h.1 Bool.false_ne_true]
  · exact fun _ heq => absurd heq hquote
  · exact hslash
  · exact fun _ heq => absurd heq (ne_return hplain)

/-- Escaped characters are read as they were before, with up to two quotes pending. -/
theorem readLongBasic?_escapeAll (cs : List Char) {n : Nat} (hn : n ≤ 2)
    (hrest : rest.head? ≠ some '"') :
    readLongBasic? false
        (List.replicate n '"' ++ escapeAll true n cs ++ '"' :: '"' :: '"' :: rest) =
      some (List.replicate n '"' ++ cs, rest) := by
  induction cs generalizing n with
  | nil =>
      simp only [escapeAll, List.append_nil]
      exact readsLong_basic.read_close hn hrest
  | cons c cs ih =>
      have hfresh := ih (n := 0) (by decide)
      rw [List.replicate_zero, List.nil_append, List.nil_append] at hfresh
      rw [escapeAll]
      rcases escape_cases true n c with ⟨heq, hslash, hquote, hplain⟩ | ⟨s, heq, hescapes⟩
      · by_cases hc : c = '"'
        · -- One more quote is pending.
          rw [heq, hc, if_pos ⟨rfl, rfl⟩, ← List.append_assoc, ← List.replicate_succ',
            List.append_cons (List.replicate n '"') '"' cs, ← List.replicate_succ']
          exact ih (hquote hc).2
        · rw [heq, if_neg fun h => hc h.1, List.append_assoc, List.append_assoc,
            List.singleton_append, readsLong_basic.read_replicate hn hc,
            readLongBasic?_cons hc hslash (hplain.imp_left And.left), hfresh]
          rfl
      · have hnext : ¬(c = '"' ∧ escape true n c = ['"']) := by
          rw [heq]
          exact fun h => absurd (List.cons.inj h.2).1 (by decide)
        rw [if_neg hnext, heq, List.append_assoc, List.append_assoc, List.cons_append,
          readsLong_basic.read_replicate hn (by decide), ← List.cons_append,
          readLongBasic?_escapes hescapes, hfresh]
        rfl

/-! ### Texts of several lines between single quotes -/

theorem readsLong_literal : ReadsLong '\'' readLongLiteral? where
  close rest := by rw [readLongLiteral?]
  quote more hmore := by
    rw [readLongLiteral?, if_pos (.inr (by decide))]
    · exact fun rest _ heq => hmore rest heq
    · exact fun _ heq => absurd heq (by decide)

theorem readLongLiteral?_cons (hquote : c ≠ '\'') (hplain : c = '\n' ∨ isPlain c = true)
    (rest : List Char) : readLongLiteral? (c :: rest) = consRead c (readLongLiteral? rest) := by
  rw [readLongLiteral?, if_pos hplain]
  · exact fun _ heq => absurd heq hquote
  · exact fun _ heq => absurd heq (ne_return hplain)

/-- A text without long runs of quotes is read as it stands, with some quotes pending. -/
theorem readLongLiteral?_append {cs : List Char} (hplain : ∀ c ∈ cs, c = '\n' ∨ isPlain c = true)
    {n : Nat} (hn : longestRun '\'' n cs ≤ 2) (hrest : rest.head? ≠ some '\'') :
    readLongLiteral? (List.replicate n '\'' ++ cs ++ '\'' :: '\'' :: '\'' :: rest) =
      some (List.replicate n '\'' ++ cs, rest) := by
  induction cs generalizing n with
  | nil =>
      simp only [List.append_nil]
      exact readsLong_literal.read_close hn hrest
  | cons c cs ih =>
      have hcs : ∀ d ∈ cs, d = '\n' ∨ isPlain d = true :=
        fun d hd => hplain d (List.mem_cons_of_mem c hd)
      rw [longestRun] at hn
      by_cases hc : c = '\''
      · rw [if_pos hc] at hn
        rw [hc, List.append_cons (List.replicate n '\'') '\'' cs, ← List.replicate_succ']
        exact ih hcs hn
      · rw [if_neg hc, Nat.max_le] at hn
        have hfresh := ih hcs hn.2
        rw [List.replicate_zero, List.nil_append] at hfresh
        rw [List.append_assoc, List.cons_append, readsLong_literal.read_replicate hn.1 hc,
          readLongLiteral?_cons hc (hplain c List.mem_cons_self), hfresh]
        rfl

/-! ### Whole texts -/

/-- What the ways to write a text ask of it. -/
def Quoting.Suits (s : List Char) : Quoting → Prop
  | basic => True
  | literal => '\'' ∉ s ∧ ∀ c ∈ s, isPlain c = true
  | longBasic => True
  | longLiteral => longestRun '\'' 0 s ≤ 2 ∧ ∀ c ∈ s, c = '\n' ∨ isPlain c = true

theorem le_longestRun (q : Char) (n : Nat) (s : List Char) : n ≤ longestRun q n s := by
  induction s generalizing n with
  | nil => exact Nat.le_refl n
  | cons c s ih =>
      rw [longestRun]
      split
      · exact Nat.le_of_succ_le (ih (n + 1))
      · exact Nat.le_max_left _ _

theorem not_mem_of_longestRun {q : Char} (h : longestRun q 0 s = 0) : q ∉ s := by
  induction s with
  | nil => exact List.not_mem_nil
  | cons c s ih =>
      rw [longestRun] at h
      split at h
      · have hle := le_longestRun q (0 + 1) s
        omega
      · next hc =>
        rw [List.mem_cons, not_or]
        exact ⟨Ne.symm hc, ih (by omega)⟩

theorem suits_best (s : List Char) : (Quoting.best s).Suits s := by
  have hplain (h : s.any needsEscape = false) : ∀ c ∈ s, c = '\n' ∨ isPlain c = true := by
    intro c hc
    have hneeds := List.any_eq_false.1 h c hc
    cases hplain : isPlain c with
    | true => exact .inr rfl
    | false => exact .inl (by simpa [needsEscape, hplain] using hneeds)
  unfold Quoting.best
  dsimp only
  split
  · trivial
  · split
    · next h =>
      simp only [Bool.and_eq_true, Bool.not_eq_true', beq_iff_eq] at h
      obtain ⟨⟨hescapes, hsingles⟩, hlines⟩ := h
      refine ⟨not_mem_of_longestRun hsingles, fun c hc => (hplain hescapes c hc).resolve_left ?_⟩
      rintro rfl
      simp_all
    · split
      · trivial
      · split
        · next h =>
          simp only [Bool.and_eq_true, Bool.not_eq_true', decide_eq_true_eq] at h
          exact ⟨h.2, hplain h.1⟩
        · split <;> trivial

theorem readText?_basic (h : ∀ more, rest ≠ '"' :: '"' :: more) :
    readText? ('"' :: rest) = readText?.asText (readBasic? rest) := by
  rw [readText?]
  exact fun more heq => h more heq

theorem readText?_literal (h : ∀ more, rest ≠ '\'' :: '\'' :: more) :
    readText? ('\'' :: rest) = readText?.asText (readLiteral? rest) := by
  rw [readText?]
  exact fun more heq => h more heq

theorem dropLine_cons (hline : c ≠ '\n') (hreturn : c ≠ '\r') (rest : List Char) :
    dropLine (c :: rest) = c :: rest := by
  unfold dropLine
  split <;> simp_all

/-- The line end that was put in front of a text is dropped, and nothing else is. -/
theorem dropLine_append {lines : Bool} (h : lines = false → dropLine s = s) :
    dropLine ((if lines then ['\n'] else []) ++ s) = s := by
  cases lines with
  | true => rfl
  | false => exact h rfl

theorem dropLine_escapeAll {cs : List Char} (hlines : '\n' ∉ cs) (quotes : Nat) :
    dropLine (escapeAll true quotes cs ++ '"' :: rest) =
      escapeAll true quotes cs ++ '"' :: rest := by
  cases cs with
  | nil => exact dropLine_cons (by decide) (by decide) rest
  | cons c cs =>
      have hc : c ≠ '\n' := fun h => hlines (h ▸ List.mem_cons_self)
      rw [escapeAll, List.append_assoc]
      rcases escape_cases true quotes c with ⟨heq, -, -, hplain⟩ | ⟨s, heq, -⟩
      · rw [heq]
        exact dropLine_cons hc (ne_return (hplain.imp_left And.left)) _
      · rw [heq]
        exact dropLine_cons (by decide) (by decide) _

theorem dropLine_literal {cs : List Char} (hplain : ∀ c ∈ cs, c = '\n' ∨ isPlain c = true)
    (hlines : '\n' ∉ cs) : dropLine (cs ++ '\'' :: rest) = cs ++ '\'' :: rest := by
  cases cs with
  | nil => exact dropLine_cons (by decide) (by decide) rest
  | cons c cs =>
      have hc : c ≠ '\n' := fun h => hlines (h ▸ List.mem_cons_self)
      exact dropLine_cons hc (ne_return (hplain c List.mem_cons_self)) _

theorem escapeAll_ne {cs : List Char} (hrest : rest.head? ≠ some '"') (quotes : Nat)
    (more : List Char) : escapeAll false quotes cs ++ '"' :: rest ≠ '"' :: '"' :: more := by
  cases cs with
  | nil =>
      rintro heq
      rw [(List.cons.inj heq).2] at hrest
      exact hrest rfl
  | cons c cs =>
      rw [escapeAll, List.append_assoc]
      rcases escape_cases false quotes c with ⟨heq, -, hquote, -⟩ | ⟨s, heq, -⟩
      · rw [heq]
        exact fun h => absurd (hquote (List.cons.inj h).1).1 Bool.false_ne_true
      · rw [heq]
        exact fun h => absurd (List.cons.inj h).1 (by decide)

theorem literal_ne {cs : List Char} (hquote : '\'' ∉ cs) (hrest : rest.head? ≠ some '\'')
    (more : List Char) : cs ++ '\'' :: rest ≠ '\'' :: '\'' :: more := by
  cases cs with
  | nil =>
      rintro heq
      rw [(List.cons.inj heq).2] at hrest
      exact hrest rfl
  | cons c cs =>
      intro heq
      exact hquote ((List.cons.inj heq).1 ▸ List.mem_cons_self)

theorem asText_toList (t : String) (rest : List Char) :
    readText?.asText (some (t.toList, rest)) = some (t, rest) := by
  simp [readText?.asText]

/-- A text is read as it was before it was written, unless more quotes follow. -/
theorem readText?_writeText (t : String) (hbasic : rest.head? ≠ some '"')
    (hliteral : rest.head? ≠ some '\'') :
    readText? ((writeText t).toList ++ rest) = some (t, rest) := by
  have hlines : t.toList.contains '\n' = false → '\n' ∉ t.toList := by simp
  have hsuits := suits_best t.toList
  unfold writeText
  dsimp only
  rw [String.toList_ofList]
  cases hbest : Quoting.best t.toList with
  | basic =>
      simp only [Quoting.quotes, Quoting.isLong, Quoting.isLiteral, Bool.false_eq_true,
        false_and, if_false, List.append_assoc, List.cons_append, List.nil_append]
      rw [readText?_basic (escapeAll_ne hbasic 0), readBasic?_escapeAll]
      exact asText_toList t rest
  | literal =>
      rw [hbest] at hsuits
      simp only [Quoting.quotes, Quoting.isLong, Quoting.isLiteral, Bool.false_eq_true,
        false_and, if_false, if_true, List.append_assoc, List.cons_append, List.nil_append]
      rw [readText?_literal (literal_ne hsuits.1 hliteral), readLiteral?_append hsuits.2 hsuits.1]
      exact asText_toList t rest
  | longBasic =>
      have hread := readLongBasic?_escapeAll t.toList (n := 0) (by decide) hbasic
      rw [List.replicate_zero, List.nil_append, List.nil_append] at hread
      simp only [Quoting.quotes, Quoting.isLong, Quoting.isLiteral, Bool.false_eq_true,
        true_and, if_false, List.append_assoc, List.cons_append, List.nil_append]
      rw [readText?, dropLine_append fun h => dropLine_escapeAll (hlines h) 0, hread]
      exact asText_toList t rest
  | longLiteral =>
      rw [hbest] at hsuits
      have hread := readLongLiteral?_append hsuits.2 (n := 0) hsuits.1 hliteral
      rw [List.replicate_zero, List.nil_append] at hread
      simp only [Quoting.quotes, Quoting.isLong, Quoting.isLiteral, true_and, if_true,
        List.append_assoc, List.cons_append, List.nil_append]
      rw [readText?, dropLine_append fun h => dropLine_literal hsuits.2 (hlines h), hread]
      exact asText_toList t rest

/-- A text that is written starts with a quote. -/
theorem exists_writeText_eq (t : String) :
    ∃ q s, (writeText t).toList = q :: s ∧ (q = '"' ∨ q = '\'') := by
  unfold writeText
  dsimp only
  rw [String.toList_ofList]
  cases Quoting.best t.toList with
  | basic => exact ⟨_, _, rfl, .inl rfl⟩
  | literal => exact ⟨_, _, rfl, .inr rfl⟩
  | longBasic => exact ⟨_, _, rfl, .inl rfl⟩
  | longLiteral => exact ⟨_, _, rfl, .inr rfl⟩

end Vigil.Toml
