import Vigil.Proofs.Except
import Vigil.Proofs.Script.Meaning

/-!
# What scripts are accepted

Whatever the scans cut out of a script can be put together again, so a script that is evaluated
is made of its operands, its signs and blanks. Each operand is one of the grammar, or it is a text
that starts and ends with a quote and has more quotes in between: only the first and the last
character of such an operand are looked at. A script that is evaluated is one of the grammar
exactly if it has no operand of the second kind (`written_iff_of_evaluate`).
-/

namespace Vigil.Script

open Text (trim trimStart trimEnd)

/-! ### Operands that are cut out -/

/-- The texts on the two sides of the first comparison sign, or the whole of a clause that has
none. -/
def clauseOperands (s : List Char) : List (List Char) :=
  match Comparison.find? false s with
  | none => [s]
  | some (left, _, right) => [trim left, trim right]

/-- The texts that are evaluated as operands of a script. -/
def operandTexts (script : List Char) : List (List Char) :=
  (splitDoubled '|' (trim script)).flatMap fun conjunct =>
    (splitDoubled '&' conjunct).flatMap fun c => clauseOperands (trim c)

/-- Starts and ends with a quote, and has another one in between. -/
def Overquoted (raw : List Char) : Prop :=
  raw.head? = some '"' ∧ raw.getLast? = some '"' ∧ '"' ∈ raw.tail.dropLast

instance (raw : List Char) : Decidable (Overquoted raw) := inferInstanceAs (Decidable (_ ∧ _))

theorem overquoted_text_iff {s : List Char} : Overquoted ('"' :: (s ++ ['"'])) ↔ '"' ∈ s := by
  have hlast : ('"' :: (s ++ ['"'])).getLast? = some '"' :=
    List.getLast?_concat (l := '"' :: s)
  rw [Overquoted, List.tail_cons, List.dropLast_concat, hlast]
  exact ⟨fun h => h.2.2, fun h => ⟨rfl, rfl, h⟩⟩

theorem Operand.not_overquoted (o : Operand) : ¬Overquoted o.chars := by
  rcases o.chars_cases with ⟨-, hchars⟩ | ⟨s, heq, hs⟩
  · rintro ⟨hhead, -⟩
    cases hchars '"' (List.mem_of_mem_head? hhead)
  · rw [heq, overquoted_text_iff]
    exact hs

/-- What has a value as an operand is an operand of the grammar, or it has a quote too many. -/
theorem exists_operand_or_overquoted {readings : Readings} {raw : List Char} {v : Value}
    (h : operand readings raw = .ok v) : (∃ o : Operand, o.chars = raw) ∨ Overquoted raw := by
  unfold operand at h
  split at h
  · cases h
  · next rest =>
    split at h
    · next hlast =>
      obtain ⟨s, rfl⟩ := List.getLast?_eq_some_iff.1 hlast
      by_cases hs : '"' ∈ s
      · exact .inr (overquoted_text_iff.2 hs)
      · exact .inl ⟨.text s hs, rfl⟩
    · cases h
  · next hne hquote =>
    refine .inl ?_
    dsimp only at h
    split at h
    · next htrue => exact ⟨.bool true, by rw [← String.toList_ofList (l := raw), htrue]; rfl⟩
    · next htrue =>
      split at h
      · next hfalse => exact ⟨.bool false, by rw [← String.toList_ofList (l := raw), hfalse]; rfl⟩
      · next hfalse =>
        split at h
        · next x hx => exact ⟨.number raw x hx, rfl⟩
        · next hnone =>
          split at h
          · next hchars =>
            exact ⟨.name raw ⟨hne, List.all_eq_true.1 hchars, htrue, hfalse, hnone⟩, rfl⟩
          · cases h

/-! ### Texts that are put together again -/

namespace Joined

variable {α : Type} {mark : Char} {writes : α → List Char → Prop} {xs : List α} {s : List Char}

theorem prepend {pieces : List (List Char)} (h : Joined mark (· = ·) pieces s) (c : Char) :
    Joined mark (· = ·) (Script.prepend c pieces) (c :: s) := by
  cases h with
  | single h => exact .single (congrArg (c :: ·) h)
  | cons h hrest => exact .cons (congrArg (c :: ·) h) hrest

/-- The pieces of a text are joined by the marks at which it was cut. -/
theorem splitFrom (mark : Char) (inQuotes : Bool) (s : List Char) :
    Joined mark (· = ·) (Script.splitFrom mark inQuotes s) s := by
  fun_induction Script.splitFrom mark inQuotes s with
  | case1 => exact .single rfl
  | case2 => exact .single rfl
  | case3 inQuotes d rest ih => exact ih.prepend '"'
  | case4 inQuotes c d rest hquote hmarks ih =>
      obtain ⟨-, rfl, rfl⟩ := hmarks
      exact .cons rfl ih
  | case5 inQuotes c d rest hquote hmarks ih => exact ih.prepend c

/-- Each piece of a text is written from one of the things that were joined. -/
theorem exists_of_mem_splitDoubled (hmark : mark ≠ '"')
    (hwrites : ∀ x s, writes x s → Outside (· ≠ mark) s) (h : Joined mark writes xs s) :
    ∀ piece ∈ splitDoubled mark s, ∃ x, writes x piece := by
  have hpieces := h.forall₂_splitDoubled hmark hwrites
  generalize splitDoubled mark s = pieces at hpieces
  clear h
  induction hpieces with
  | nil => exact List.forall_mem_nil _
  | cons hx _ ih => exact List.forall_mem_cons.2 ⟨⟨_, hx⟩, ih⟩

/-- A text is written from some things if each of its pieces is. -/
theorem exists_of_pieces {pieces : List (List Char)} (h : Joined mark (· = ·) pieces s)
    (hpieces : ∀ piece ∈ pieces, ∃ x, writes x piece) : ∃ xs, Joined mark writes xs s := by
  induction h with
  | single h =>
      obtain ⟨x, hx⟩ := hpieces _ (List.mem_singleton_self _)
      exact ⟨[x], .single (h ▸ hx)⟩
  | cons h _ ih =>
      obtain ⟨x, hx⟩ := hpieces _ List.mem_cons_self
      obtain ⟨xs, hxs⟩ := ih fun piece hpiece => hpieces piece (List.mem_cons_of_mem _ hpiece)
      exact ⟨x :: xs, .cons (h ▸ hx) hxs⟩

theorem exists_of_splitDoubled (h : ∀ piece ∈ splitDoubled mark s, ∃ x, writes x piece) :
    ∃ xs, Joined mark writes xs s :=
  exists_of_pieces (splitFrom mark false s) h

end Joined

theorem Comparison.eq_of_atStart? {s rest : List Char} {op : Comparison}
    (h : atStart? s = some (op, rest)) : s = op.sign ++ rest := by
  unfold atStart? at h
  split at h <;> cases h <;> rfl

/-- The sign that is found stands between the two texts that are found with it. -/
theorem Comparison.eq_of_find? {inQuotes : Bool} {s left right : List Char} {op : Comparison}
    (h : find? inQuotes s = some (left, op, right)) : s = left ++ (op.sign ++ right) := by
  induction s generalizing inQuotes left with
  | nil => cases h
  | cons c s ih =>
      rw [find?.eq_def] at h
      dsimp only at h
      split at h
      · obtain ⟨⟨l, o, r⟩, hfound, heq⟩ := Option.map_eq_some_iff.1 h
        cases heq
        exact congrArg (c :: ·) (ih hfound)
      · split at h
        · next hstart =>
          cases h
          exact eq_of_atStart? hstart
        · obtain ⟨⟨l, o, r⟩, hfound, heq⟩ := Option.map_eq_some_iff.1 h
          cases heq
          exact congrArg (c :: ·) (ih hfound)

/-! ### Blanks around texts -/

theorem exists_blanks_trimStart (s : List Char) : ∃ before, Blanks before ∧
    s = before ++ trimStart s :=
  ⟨s.takeWhile Text.isBlank, fun _ hc => List.mem_takeWhile_imp hc,
    List.takeWhile_append_dropWhile.symm⟩

theorem exists_blanks_trimEnd (s : List Char) : ∃ after, Blanks after ∧ s = trimEnd s ++ after := by
  obtain ⟨before, hbefore, heq⟩ := exists_blanks_trimStart s.reverse
  refine ⟨before.reverse, fun c hc => hbefore c (List.mem_reverse.1 hc), ?_⟩
  have hreverse := congrArg List.reverse heq
  rwa [List.reverse_reverse, List.reverse_append] at hreverse

theorem exists_blanks_trim (s : List Char) : ∃ before after, Blanks before ∧ Blanks after ∧
    s = before ++ (trim s ++ after) := by
  obtain ⟨before, hbefore, hstart⟩ := exists_blanks_trimStart s
  obtain ⟨after, hafter, hend⟩ := exists_blanks_trimEnd (trimStart s)
  exact ⟨before, after, hbefore, hafter, hstart.trans (congrArg (before ++ ·) hend)⟩

theorem Blanks.append {s t : List Char} (hs : Blanks s) (ht : Blanks t) : Blanks (s ++ t) :=
  List.forall_mem_append.2 ⟨hs, ht⟩

/-- What is written stays so with blanks around it. -/
def Pads {α : Type} (writes : α → List Char → Prop) : Prop :=
  ∀ x s before after, Blanks before → Blanks after → writes x s →
    writes x (before ++ (s ++ after))

theorem Clause.Written.pads : Pads Clause.Written := by
  rintro c s before after hbefore hafter ⟨hinner, hcore, houter⟩
  simpa only [List.append_assoc] using mk (hbefore.append hinner) hcore (houter.append hafter)

theorem Joined.pads {α : Type} {mark : Char} {writes : α → List Char → Prop}
    (h : Pads writes) : Pads (Joined mark writes) := by
  intro xs s before after hbefore hafter hs
  induction hs generalizing before with
  | single hx => exact .single (h _ _ _ _ hbefore hafter hx)
  | cons hx _ ih =>
      have hfront := h _ _ _ [] hbefore Blanks.nil hx
      have hback := ih [] Blanks.nil
      simpa only [List.append_assoc, List.cons_append, List.nil_append, List.append_nil] using
        Joined.cons hfront hback

/-! ### Clauses -/

namespace Clause

/-- The operands of a clause, from the left. -/
def operands : Clause → List Operand
  | single o => [o]
  | compare left _ right => [left, right]

/-- The operands that are cut out of a clause are those that it was written from. -/
theorem Written.clauseOperands_trim {c : Clause} {s : List Char} (h : c.Written s) :
    clauseOperands (trim s) = c.operands.map Operand.chars := by
  obtain ⟨hbefore, hcore, hafter⟩ := h
  rw [hcore.solid.trim_eq hbefore hafter, clauseOperands]
  cases hcore with
  | single o => rw [o.find?_chars]; rfl
  | compare left op right hbefore hafter =>
      rw [left.find?_compare right op hbefore hafter]
      dsimp only
      rw [left.trim_append hbefore, right.append_trim hafter]
      rfl

/-- A clause of operands of the grammar is one of the grammar. -/
theorem exists_written {s : List Char}
    (h : ∀ raw ∈ clauseOperands (trim s), ∃ o : Operand, o.chars = raw) :
    ∃ c : Clause, c.Written s := by
  obtain ⟨before, after, hbefore, hafter, hs⟩ := exists_blanks_trim s
  unfold clauseOperands at h
  cases hfind : Comparison.find? false (trim s) with
  | none =>
      rw [hfind] at h
      obtain ⟨o, ho⟩ := List.forall_mem_singleton.1 h
      exact ⟨.single o, hs ▸ ho ▸ .mk hbefore (.single o) hafter⟩
  | some found =>
      obtain ⟨left, op, right⟩ := found
      rw [hfind] at h
      obtain ⟨⟨l, hl⟩, hright⟩ := List.forall_mem_cons.1 h
      obtain ⟨r, hr⟩ := List.forall_mem_singleton.1 hright
      obtain ⟨before', behind, hbefore', hbehind, hleft⟩ := exists_blanks_trim left
      obtain ⟨front, after', hfront, hafter', hright⟩ := exists_blanks_trim right
      rw [← hl] at hleft
      rw [← hr] at hright
      have hcore := Core.compare l op r hbehind hfront
      have hwritten := Written.mk (hbefore.append hbefore') hcore (hafter'.append hafter)
      refine ⟨.compare l op r, ?_⟩
      rw [hs, Comparison.eq_of_find? hfind, hleft, hright]
      simpa only [List.append_assoc] using hwritten

end Clause

/-! ### Scripts -/

section

variable {readings : Readings} {b : Bool} {s : List Char} {script : String}

theorem exists_values_of_clause (h : clause readings s = .ok b) :
    ∀ raw ∈ clauseOperands s, ∃ v, operand readings raw = .ok v := by
  unfold clause at h
  split at h
  · cases h
  · unfold clauseOperands
    cases hfind : Comparison.find? false s with
    | none =>
        rw [hfind] at h
        obtain ⟨v, hv, -⟩ := Except.ok_of_bind h
        exact List.forall_mem_singleton.2 ⟨v, hv⟩
    | some found =>
        obtain ⟨left, op, right⟩ := found
        rw [hfind] at h
        obtain ⟨l, hl, h⟩ := Except.ok_of_bind h
        obtain ⟨r, hr, -⟩ := Except.ok_of_bind h
        exact List.forall_mem_cons.2 ⟨⟨l, hl⟩, List.forall_mem_singleton.2 ⟨r, hr⟩⟩

/-- A script is evaluated only if each of its operands is. -/
theorem exists_values_of_evaluate (h : evaluate readings script = .ok b) :
    ∀ raw ∈ operandTexts script.toList, ∃ v, operand readings raw = .ok v := by
  intro raw hraw
  obtain ⟨conjunct, hconjunct, hraw⟩ := List.mem_flatMap.1 hraw
  obtain ⟨c, hc, hraw⟩ := List.mem_flatMap.1 hraw
  unfold evaluate at h
  dsimp only at h
  split at h
  · cases h
  · obtain ⟨truths, htruths, -⟩ := Except.ok_of_bind h
    obtain ⟨truth, htruth⟩ := Except.ok_of_mapM htruths conjunct hconjunct
    obtain ⟨clauses, hclauses, -⟩ := Except.ok_of_bind htruth
    obtain ⟨t, ht⟩ := Except.ok_of_mapM hclauses c hc
    exact exists_values_of_clause ht raw hraw

/-- A script whose operands are all of the grammar is one of the grammar. -/
theorem Disjunction.exists_written
    (h : ∀ raw ∈ operandTexts s, ∃ o : Operand, o.chars = raw) :
    ∃ d : Disjunction, d.Written s := by
  obtain ⟨d, hd⟩ : ∃ d : Disjunction, d.Written (trim s) := by
    refine Joined.exists_of_splitDoubled fun conjunct hconjunct => ?_
    refine Joined.exists_of_splitDoubled fun c hc => ?_
    refine Clause.exists_written fun raw hraw => h raw ?_
    exact List.mem_flatMap.2 ⟨conjunct, hconjunct, List.mem_flatMap.2 ⟨c, hc, hraw⟩⟩
  obtain ⟨before, after, hbefore, hafter, hs⟩ := exists_blanks_trim s
  refine ⟨d, ?_⟩
  rw [hs]
  exact Joined.pads (Joined.pads Clause.Written.pads) _ _ _ _ hbefore hafter hd

/-- The operands of a script of the grammar are those that it was written from. -/
theorem Disjunction.Written.exists_operand {d : Disjunction} (h : d.Written s) :
    ∀ raw ∈ operandTexts s, ∃ o : Operand, o.chars = raw := by
  intro raw hraw
  obtain ⟨conjunct, hconjunct, hraw⟩ := List.mem_flatMap.1 hraw
  obtain ⟨c, hc, hraw⟩ := List.mem_flatMap.1 hraw
  obtain ⟨cs, hcs⟩ := Joined.exists_of_mem_splitDoubled (by decide)
    (fun _ _ hcs => hcs.outside) h.trim conjunct hconjunct
  obtain ⟨c, hc⟩ := Joined.exists_of_mem_splitDoubled (by decide)
    (fun _ _ hc => hc.outside.mono fun _ hchar => hchar.ne rfl rfl) hcs c hc
  rw [hc.clauseOperands_trim] at hraw
  obtain ⟨o, -, ho⟩ := List.mem_map.1 hraw
  exact ⟨o, ho⟩

end

/-- What is evaluated has operands of the grammar, but for those with a quote too many. It is a
script of the grammar exactly if it has none of these. -/
theorem written_iff_of_evaluate {readings : Readings} {script : String} {b : Bool}
    (h : evaluate readings script = .ok b) :
    (∀ raw ∈ operandTexts script.toList,
        (∃ o : Operand, o.chars = raw) ∨ Overquoted raw) ∧
      ((∃ d : Disjunction, d.Written script.toList) ↔
        ∀ raw ∈ operandTexts script.toList, ¬Overquoted raw) := by
  have hoperands : ∀ raw ∈ operandTexts script.toList,
      (∃ o : Operand, o.chars = raw) ∨ Overquoted raw := by
    intro raw hraw
    obtain ⟨v, hv⟩ := exists_values_of_evaluate h raw hraw
    exact exists_operand_or_overquoted hv
  refine ⟨hoperands, ?_, fun hplain => ?_⟩
  · rintro ⟨d, hd⟩ raw hraw
    obtain ⟨o, rfl⟩ := hd.exists_operand raw hraw
    exact o.not_overquoted
  · exact Disjunction.exists_written fun raw hraw =>
      (hoperands raw hraw).resolve_right (hplain raw hraw)

theorem written_iff_of_evaluate_sample :
    evaluate Sample.readings Sample.script = .ok true ∧
      ∃ d : Disjunction, d.Written Sample.script.toList := by
  have htrue : evaluate Sample.readings Sample.script = .ok true := by decide +kernel
  exact ⟨htrue, (written_iff_of_evaluate htrue).2.2 (by decide)⟩

/-- Two comparisons in one clause, and two operands side by side, are evaluated. -/
theorem overquoted_evaluated_sample :
    (evaluate .empty "\"a\" == \"b\" == \"c\"" = .ok false ∧
        ¬∃ d : Disjunction, d.Written "\"a\" == \"b\" == \"c\"".toList) ∧
      (evaluate .empty "\"a\" != \"b\" \"c\"" = .ok true ∧
        ¬∃ d : Disjunction, d.Written "\"a\" != \"b\" \"c\"".toList) := by
  have hnot {script : List Char} (h : ∃ raw ∈ operandTexts script, Overquoted raw) :
      ¬∃ d : Disjunction, d.Written script := by
    rintro ⟨d, hd⟩
    obtain ⟨raw, hraw, hover⟩ := h
    obtain ⟨o, rfl⟩ := hd.exists_operand raw hraw
    exact o.not_overquoted hover
  exact ⟨⟨by decide +kernel, hnot (by decide)⟩, by decide +kernel, hnot (by decide)⟩

end Vigil.Script
