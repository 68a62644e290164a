import Mathlib.Algebra.Group.Nat.Even
import Mathlib.Data.Finset.Card
import Mathlib.Data.String.Basic
import Vigil.Proofs.Script.Scan

/-!
# Where a text is cut

A text is cut at the doubled marks that are met from the left outside of quotes. `Pieces` says
so of the pieces alone: each but the last is followed by a doubled mark, leaves no quote open
and meets no doubled mark before. All else about the pieces comes from this, by induction on
them. The octets at which a text is cut are those that a scan finds which counts octets
(`stretches`), and they always stand between two characters (`splitDoubled_exact`).
-/

namespace Vigil.Script

variable {mark : Char} {inQuotes : Bool} {s t : List Char}

/-! ### Open quotes -/

/-- Whether a quote is open after a text before which one was open, or none was. -/
def openAfter (inQuotes : Bool) (s : List Char) : Bool :=
  s.foldl (fun inQuotes c => if c = '"' then !inQuotes else inQuotes) inQuotes

@[simp] theorem openAfter_nil (inQuotes : Bool) : openAfter inQuotes [] = inQuotes := rfl

theorem openAfter_quote (inQuotes : Bool) (s : List Char) :
    openAfter inQuotes ('"' :: s) = openAfter (!inQuotes) s := rfl

theorem openAfter_cons {c : Char} (hc : c ≠ '"') (inQuotes : Bool) (s : List Char) :
    openAfter inQuotes (c :: s) = openAfter inQuotes s := by
  rw [openAfter, List.foldl_cons, if_neg hc, openAfter]

theorem openAfter_append (inQuotes : Bool) (s t : List Char) :
    openAfter inQuotes (s ++ t) = openAfter (openAfter inQuotes s) t :=
  List.foldl_append

/-- No quote is open after an even number of them. -/
theorem openAfter_eq_false_iff :
    openAfter inQuotes s = false ↔ (Even (s.count '"') ↔ inQuotes = false) := by
  induction s generalizing inQuotes with
  | nil => simp
  | cons c s ih =>
      by_cases hc : c = '"'
      · subst hc
        rw [openAfter_quote, ih, List.count_cons_self, Nat.even_add_one]
        cases inQuotes <;> simp
      · rw [openAfter_cons hc, ih, List.count_cons_of_ne hc]

theorem openAfter_false_iff : openAfter false s = false ↔ Even (s.count '"') := by
  simp [openAfter_eq_false_iff]

/-! ### The pieces by themselves -/

/-- Has no doubled mark outside of quotes. -/
def Uncut (mark : Char) (inQuotes : Bool) (s : List Char) : Prop :=
  ∀ before after, s = before ++ mark :: mark :: after → openAfter inQuotes before = true

theorem Uncut.of_append (h : Uncut mark inQuotes (s ++ t)) : Uncut mark inQuotes s := by
  rintro before after rfl
  exact h before (after ++ t) (by simp)

theorem uncut_nil : Uncut mark inQuotes [] := by
  intro before after h
  simp at h

theorem uncut_singleton (c : Char) : Uncut mark inQuotes [c] := by
  intro before after h
  cases before <;> simp at h

/-- Whether a character changes what is open, it has to be passed over with no doubled mark
starting at it. -/
theorem Uncut.cons {c d : Char} (h : Uncut mark (openAfter inQuotes [c]) (d :: s))
    (hc : inQuotes = false → ¬(c = mark ∧ d = mark)) : Uncut mark inQuotes (c :: d :: s) := by
  intro before after heq
  cases before with
  | nil =>
      obtain ⟨hcmark, hrest⟩ := List.cons.inj heq
      have hdmark : d = mark := (List.cons.inj hrest).1
      cases inQuotes with
      | true => rfl
      | false => exact absurd ⟨hcmark, hdmark⟩ (hc rfl)
  | cons b before =>
      obtain ⟨rfl, hrest⟩ := List.cons.inj heq
      have hopen := openAfter_append inQuotes [c] before
      rw [List.singleton_append] at hopen
      rw [hopen]
      exact h before after hrest

/-- The pieces of a text that starts inside of quotes if `inQuotes` is true. -/
inductive Pieces (mark : Char) : Bool → List Char → List (List Char) → Prop where
  | last {inQuotes : Bool} {s : List Char} (h : Uncut mark inQuotes s) :
      Pieces mark inQuotes s [s]
  | cut {inQuotes : Bool} {piece rest : List Char} {pieces : List (List Char)}
      (hshut : openAfter inQuotes piece = false) (hfirst : Uncut mark inQuotes (piece ++ [mark]))
      (hrest : Pieces mark false rest pieces) :
      Pieces mark inQuotes (piece ++ mark :: mark :: rest) (piece :: pieces)

namespace Pieces

variable {pieces : List (List Char)}

/-- A character that no doubled mark starts with is put in front of the first piece. -/
theorem prepend {c d : Char} (h : Pieces mark (openAfter inQuotes [c]) (d :: s) pieces)
    (hc : inQuotes = false → ¬(c = mark ∧ d = mark)) :
    Pieces mark inQuotes (c :: d :: s) (Script.prepend c pieces) := by
  generalize ht : d :: s = t at h
  cases h with
  | last h => exact .last (ht ▸ (ht ▸ h : Uncut mark _ (d :: s)).cons hc)
  | @cut _ piece rest pieces hshut hfirst hrest =>
      have hopen := openAfter_append inQuotes [c] piece
      rw [← List.cons_append]
      refine .cut (hopen.trans hshut) ?_ hrest
      -- The first character after `c` is the first one of the piece, or the mark after it.
      obtain ⟨tail, htail⟩ : ∃ tail, piece ++ [mark] = d :: tail := by
        cases piece with
        | nil => exact ⟨[], by rw [(List.cons.inj ht).1]; rfl⟩
        | cons e piece => exact ⟨piece ++ [mark], by rw [(List.cons.inj ht).1]; rfl⟩
      rw [List.cons_append, htail]
      exact (htail ▸ hfirst : Uncut mark _ (d :: tail)).cons hc

theorem splitFrom (hmark : mark ≠ '"') (inQuotes : Bool) (s : List Char) :
    Pieces mark inQuotes s (Script.splitFrom mark inQuotes s) := by
  fun_induction Script.splitFrom mark inQuotes s with
  | case1 => exact .last uncut_nil
  | case2 => exact .last (uncut_singleton _)
  | case3 inQuotes d rest ih => exact ih.prepend fun _ h => hmark h.1.symm
  | case4 inQuotes c d rest hquote hmarks ih =>
      obtain ⟨hout, rfl, rfl⟩ := hmarks
      obtain rfl : inQuotes = false := by simpa using hout
      rw [← List.nil_append (_ :: _ :: rest)]
      exact .cut rfl (uncut_singleton _) ih
  | case5 inQuotes c d rest hquote hmarks ih =>
      have hopen : inQuotes = openAfter inQuotes [c] := (openAfter_cons hquote inQuotes []).symm
      refine prepend (hopen ▸ ih : Pieces mark (openAfter inQuotes [c]) _ _) fun hout h =>
        hmarks ⟨?_, h⟩
      rw [hout]
      rfl

theorem splitDoubled (hmark : mark ≠ '"') (s : List Char) :
    Pieces mark false s (Script.splitDoubled mark s) :=
  splitFrom hmark false s

theorem intercalate_eq (h : Pieces mark inQuotes s pieces) :
    List.intercalate [mark, mark] pieces = s := by
  induction h with
  | last h => simp
  | cut hshut hfirst hrest ih =>
      cases hrest <;> simp_all [List.intercalate_cons_cons]

theorem openAfter_of_mem_dropLast (h : Pieces mark false s pieces) :
    ∀ piece ∈ pieces.dropLast, openAfter false piece = false := by
  generalize hin : false = inQuotes at h
  induction h with
  | last h => simp
  | @cut inQuotes piece rest pieces hshut hfirst hrest ih =>
      subst hin
      have hne : pieces ≠ [] := by cases hrest <;> simp
      rw [List.dropLast_cons_of_ne_nil hne]
      exact List.forall_mem_cons.2 ⟨hshut, ih rfl⟩

theorem uncut_of_mem (h : Pieces mark false s pieces) :
    ∀ piece ∈ pieces, Uncut mark false piece := by
  generalize hin : false = inQuotes at h
  induction h with
  | last h => exact List.forall_mem_singleton.2 (hin ▸ h)
  | cut hshut hfirst hrest ih =>
      subst hin
      exact List.forall_mem_cons.2 ⟨hfirst.of_append, ih rfl⟩

end Pieces

/-! ### What stands in front of a piece -/

/-- Pieces with a doubled mark after each. -/
def front (mark : Char) (pieces : List (List Char)) : List Char :=
  pieces.flatMap (· ++ [mark, mark])

theorem front_cons (piece : List Char) (pieces : List (List Char)) :
    front mark (piece :: pieces) = piece ++ mark :: mark :: front mark pieces := by
  simp [front]

theorem openAfter_marks (hmark : mark ≠ '"') (inQuotes : Bool) :
    openAfter inQuotes [mark, mark] = inQuotes := by
  rw [openAfter_cons hmark, openAfter_cons hmark, openAfter_nil]

/-- Each piece stands behind those before it and the marks after them, and no quote is open
where it starts. -/
theorem Pieces.exists_rest (hmark : mark ≠ '"') {before after : List (List Char)}
    {piece : List Char} (h : Pieces mark false s (before ++ piece :: after)) :
    (∃ rest, s = front mark before ++ (piece ++ rest)) ∧
      openAfter false (front mark before) = false := by
  induction before generalizing s with
  | nil =>
      refine ⟨?_, rfl⟩
      cases h with
      | last => exact ⟨[], by simp [front]⟩
      | cut => exact ⟨_, rfl⟩
  | cons first before ih =>
      generalize hpieces : first :: before ++ piece :: after = pieces at h
      cases h with
      | last => simp at hpieces
      | cut hshut hfirst hrest =>
          obtain ⟨rfl, rfl⟩ := List.cons.inj hpieces
          obtain ⟨⟨rest, rfl⟩, hfront⟩ := ih hrest
          refine ⟨⟨rest, by simp [front_cons]⟩, ?_⟩
          rw [front_cons, openAfter_append, hshut, openAfter_cons hmark, openAfter_cons hmark,
            hfront]

/-- Behind a text that leaves no quote open, quotes are open where they are open in what
follows by itself. -/
theorem even_count_append_iff (h : openAfter false s = false) (t : List Char) :
    Even ((s ++ t).count '"') ↔ Even (t.count '"') := by
  rw [← openAfter_false_iff, openAfter_append, h, openAfter_false_iff]

/-! ### Marks that do not overlap -/

/-- A doubled mark outside of quotes stands in a place of a text. -/
def MarkedAt (mark : Char) (s : List Char) (place : Nat) : Prop :=
  ∃ before after, s = before ++ mark :: mark :: after ∧ before.length = place ∧
    Even (before.count '"')

/-- The places of the doubled marks outside of quotes that are found from the left, where none
overlaps the one before. -/
structure Leftmost (mark : Char) (s : List Char) (places : Finset Nat) : Prop where
  marked : ∀ place ∈ places, MarkedAt mark s place
  apart : ∀ p ∈ places, ∀ q ∈ places, p < q → p + 2 ≤ q
  covered : ∀ place, MarkedAt mark s place → ∃ p ∈ places, p ≤ place ∧ place < p + 2

namespace Leftmost

variable {places others : Finset Nat}

/-- No more needs to be said of the places to determine them. -/
theorem unique (h : Leftmost mark s places) (hothers : Leftmost mark s others) :
    places = others := by
  have hmem (place : Nat) : place ∈ places ↔ place ∈ others := by
    induction place using Nat.strongRecOn with
    | ind place ih =>
        -- A place that is found is covered by the other places: by itself, or by the place
        -- before it, which both have found by induction.
        have hfound {these those : Finset Nat} (hthese : Leftmost mark s these)
            (hthose : Leftmost mark s those) (hbefore : ∀ p < place, p ∈ those → p ∈ these)
            (hplace : place ∈ these) : place ∈ those := by
          obtain ⟨p, hp, hle, hlt⟩ := hthose.covered place (hthese.marked place hplace)
          rcases Nat.eq_or_lt_of_le hle with rfl | hearlier
          · exact hp
          · have := hthese.apart p (hbefore p hearlier hp) place hplace hearlier
            omega
        exact ⟨hfound h hothers fun p hp => (ih p hp).2, hfound hothers h fun p hp => (ih p hp).1⟩
  exact Finset.ext hmem

theorem of_uncut (h : Uncut mark false s) : Leftmost mark s ∅ where
  marked := by simp
  apart := by simp
  covered := by
    rintro place ⟨before, after, heq, -, heven⟩
    cases (h before after heq).symm.trans (openAfter_false_iff.2 heven)

end Leftmost

theorem markedAt_append_iff {piece rest : List Char} (hmark : mark ≠ '"')
    (hshut : openAfter false piece = false) {place : Nat} :
    MarkedAt mark (piece ++ mark :: mark :: rest) (place + (piece.length + 2)) ↔
      MarkedAt mark rest place := by
  have hfront : openAfter false (piece ++ [mark, mark]) = false := by
    rw [openAfter_append, hshut, openAfter_marks hmark]
  have hassoc (t : List Char) : piece ++ mark :: mark :: t = (piece ++ [mark, mark]) ++ t := by simp
  constructor
  · rintro ⟨before, after, heq, hlength, heven⟩
    rw [hassoc] at heq
    obtain ⟨before, rfl⟩ : ∃ t, before = (piece ++ [mark, mark]) ++ t := by
      have hprefix : piece ++ [mark, mark] <+: before :=
        List.prefix_of_prefix_length_le (List.prefix_append _ _)
          (heq ▸ List.prefix_append before _) (by simp; omega)
      exact hprefix.imp fun _ h => h.symm
    rw [List.append_assoc (piece ++ [mark, mark])] at heq
    refine ⟨before, after, List.append_cancel_left heq, by simp at hlength; omega, ?_⟩
    exact (even_count_append_iff hfront before).1 heven
  · rintro ⟨before, after, rfl, rfl, heven⟩
    refine ⟨(piece ++ [mark, mark]) ++ before, after, by simp, by simp; omega, ?_⟩
    exact (even_count_append_iff hfront before).2 heven

/-- The places of a text are the end of its first piece and the places of what follows. -/
theorem Leftmost.cut {piece rest : List Char} {places : Finset Nat} (hmark : mark ≠ '"')
    (hshut : openAfter false piece = false) (hfirst : Uncut mark false (piece ++ [mark]))
    (h : Leftmost mark rest places) :
    Leftmost mark (piece ++ mark :: mark :: rest)
      (insert piece.length (places.image (· + (piece.length + 2)))) where
  marked := by
    refine (Finset.forall_mem_insert _ _ _).2
      ⟨?_, Finset.forall_mem_image.2 fun place hplace => ?_⟩
    · exact ⟨piece, rest, rfl, rfl, openAfter_false_iff.1 hshut⟩
    · exact (markedAt_append_iff hmark hshut).2 (h.marked place hplace)
  apart := by
    intro p hp q hq hlt
    have hsecond : q ∈ places.image (· + (piece.length + 2)) := by
      refine (Finset.mem_insert.1 hq).resolve_left ?_
      rintro rfl
      rcases Finset.mem_insert.1 hp with rfl | hp
      · exact absurd hlt (Nat.lt_irrefl _)
      · obtain ⟨p, -, rfl⟩ := Finset.mem_image.1 hp
        omega
    obtain ⟨q, hqfound, rfl⟩ := Finset.mem_image.1 hsecond
    rcases Finset.mem_insert.1 hp with rfl | hp
    · omega
    · obtain ⟨p, hpfound, rfl⟩ := Finset.mem_image.1 hp
      have := h.apart p hpfound q hqfound (by omega)
      omega
  covered := by
    intro place hplace
    by_cases hbehind : piece.length + 2 ≤ place
    · obtain ⟨place, rfl⟩ := Nat.exists_eq_add_of_le' hbehind
      obtain ⟨p, hp, hle, hlt⟩ := h.covered place ((markedAt_append_iff hmark hshut).1 hplace)
      refine ⟨_, Finset.mem_insert_of_mem (Finset.mem_image_of_mem _ hp), ?_, ?_⟩ <;> omega
    · refine ⟨piece.length, Finset.mem_insert_self _ _, ?_, by omega⟩
      by_contra hinside
      -- A doubled mark that starts inside of the piece is there before the first mark after it.
      obtain ⟨before, after, heq, rfl, heven⟩ := hplace
      have hprefix : before ++ [mark, mark] <+: piece ++ [mark] := by
        have hbefore : before ++ [mark, mark] <+: piece ++ mark :: mark :: rest :=
          ⟨after, by rw [heq]; simp⟩
        refine List.prefix_of_prefix_length_le hbefore ⟨mark :: rest, by simp⟩ ?_
        simp
        omega
      obtain ⟨tail, htail⟩ := hprefix
      have hopen := hfirst before tail (by rw [← htail]; simp)
      cases hopen.symm.trans (openAfter_false_iff.2 heven)

/-- There is one piece more than there are places at which a text is cut. -/
theorem Pieces.exists_leftmost {pieces : List (List Char)} (hmark : mark ≠ '"')
    (h : Pieces mark false s pieces) :
    ∃ places, Leftmost mark s places ∧ pieces.length = places.card + 1 := by
  generalize hin : false = inQuotes at h
  induction h with
  | last h => exact ⟨∅, .of_uncut (hin ▸ h), rfl⟩
  | @cut inQuotes piece rest pieces hshut hfirst hrest ih =>
      subst hin
      obtain ⟨places, hplaces, hlength⟩ := ih rfl
      refine ⟨_, hplaces.cut hmark hshut hfirst, ?_⟩
      have hnew : piece.length ∉ places.image (· + (piece.length + 2)) := by
        intro hmem
        obtain ⟨p, -, hp⟩ := Finset.mem_image.1 hmem
        omega
      rw [Finset.card_insert_of_notMem hnew, Finset.card_image_of_injective _
        (add_left_injective _), List.length_cons, hlength]

/-! ### Octets -/

/-- The stretches of octets between the doubled marks outside of quotes, as a scan finds them
that has met `here` octets, the last cut being at `start`. -/
def stretches (mark : Char) (inQuotes : Bool) (start here : Nat) : List Char → List (Nat × Nat)
  | [] => [(start, here)]
  | [c] => [(start, here + c.utf8Size)]
  | c :: d :: rest =>
    if c = '"' then stretches mark (!inQuotes) start (here + c.utf8Size) (d :: rest)
    else if !inQuotes ∧ c = mark ∧ d = mark then
      (start, here) :: stretches mark false (here + 2) (here + 2) rest
    else stretches mark inQuotes start (here + c.utf8Size) (d :: rest)

/-- A stretch of the octets of a text from one end of a character to another, and what it
holds. -/
structure Slices (text : String) (stretch : Nat × Nat) (piece : List Char) : Prop where
  isValid_first : String.Pos.Raw.IsValid text ⟨stretch.1⟩
  isValid_last : String.Pos.Raw.IsValid text ⟨stretch.2⟩
  extract_eq : String.Pos.Raw.extract text ⟨stretch.1⟩ ⟨stretch.2⟩ = String.ofList piece

theorem Slices.of_append {text : String} {before piece after : List Char}
    (htext : text = String.ofList (before ++ piece ++ after)) :
    Slices text (String.utf8Len before, String.utf8Len before + String.utf8Len piece) piece where
  isValid_first := by
    rw [String.Pos.Raw.isValid_iff_exists_append]
    refine ⟨String.ofList before, String.ofList (piece ++ after), ?_, ?_⟩
    · rw [htext, List.append_assoc, String.ofList_append]
    · rw [String.rawEndPos_ofList]
  isValid_last := by
    rw [String.Pos.Raw.isValid_iff_exists_append]
    refine ⟨String.ofList (before ++ piece), String.ofList after, ?_, ?_⟩
    · rw [htext, String.ofList_append]
    · rw [String.rawEndPos_ofList, String.utf8Len_append]
  extract_eq := by
    rw [htext]
    exact String.extract_of_valid before piece after

/-- How far a scan has come that met `before` and, since the last cut, `current`. -/
structure Scanned (text : String) (start here : Nat) (before current s : List Char) : Prop where
  text_eq : text = String.ofList (before ++ current ++ s)
  start_eq : start = String.utf8Len before
  here_eq : here = start + String.utf8Len current

theorem modifyHead_nil_append (pieces : List (List Char)) :
    pieces.modifyHead ([] ++ ·) = pieces :=
  congrFun List.modifyHead_id pieces

namespace Scanned

variable {text : String} {start here : Nat} {before current : List Char}

theorem pass {c : Char} (h : Scanned text start here before current (c :: s)) :
    Scanned text start (here + c.utf8Size) before (current ++ [c]) s where
  text_eq := by rw [h.text_eq]; simp
  start_eq := h.start_eq
  here_eq := by rw [h.here_eq, String.utf8Len_append]; simp; omega

/-- Behind a doubled mark the scan goes on as at the start of a text. -/
theorem cut {c d : Char} (h : Scanned text start here before current (c :: d :: s))
    (hc : c.utf8Size = 1) (hd : d.utf8Size = 1) :
    Scanned text (here + 2) (here + 2) (before ++ current ++ [c, d]) [] s where
  text_eq := by rw [h.text_eq]; simp
  start_eq := by rw [h.here_eq, h.start_eq]; simp [hc, hd]; omega
  here_eq := by simp

theorem slices (h : Scanned text start here before current s) :
    Slices text (start, here) current := by
  have hslices := Slices.of_append h.text_eq
  rwa [← h.start_eq, ← h.here_eq] at hslices

/-- The scan that counts octets finds the pieces. -/
theorem forall₂_stretches (hmark : mark.utf8Size = 1)
    (h : Scanned text start here before current s) :
    List.Forall₂ (Slices text) (stretches mark inQuotes start here s)
      ((splitFrom mark inQuotes s).modifyHead (current ++ ·)) := by
  fun_induction stretches mark inQuotes start here s generalizing before current with
  | case1 => simpa [splitFrom] using h.slices
  | case2 => simpa [splitFrom] using h.pass.slices
  | case3 inQuotes start here d rest ih =>
      rw [splitFrom_quote, List.modifyHead_modifyHead]
      simpa [Function.comp_def] using ih h.pass
  | case4 inQuotes start here c d rest hquote hmarks ih =>
      have hcut := ih (h.cut (hmarks.2.1 ▸ hmark) (hmarks.2.2 ▸ hmark))
      rw [splitFrom, if_neg hquote, if_pos hmarks]
      rw [modifyHead_nil_append] at hcut
      exact .cons (by simpa using h.slices) hcut
  | case5 inQuotes start here c d rest hquote hmarks ih =>
      have hpass := ih h.pass
      rw [splitFrom, if_neg hquote, if_neg hmarks,
        prepend_eq_modifyHead (splitFrom_ne_nil mark _ _), List.modifyHead_modifyHead]
      simpa [Function.comp_def] using hpass

end Scanned

/-! ### All that is said of the pieces -/

/-- These are the pieces of a text between the doubled marks outside of quotes, and nothing else
could be. -/
structure ExactCut (mark : Char) (text : String) (pieces : List (List Char)) : Prop where
  /-- A scan that counts octets cuts at ends of characters only, and finds the pieces. -/
  slices : List.Forall₂ (Slices text) (stretches mark false 0 0 text.toList) pieces
  joined : List.intercalate [mark, mark] pieces = text.toList
  /-- No piece but the last leaves a quote open. -/
  even : ∀ piece ∈ pieces.dropLast, Even (piece.count '"')
  /-- Doubled marks within a piece are inside of quotes. -/
  uncut : ∀ piece ∈ pieces, ∀ before after,
    piece = before ++ mark :: mark :: after → ¬Even (before.count '"')
  /-- There is one piece more than there are doubled marks outside of quotes. -/
  length_eq : ∃ places, Leftmost mark text.toList places ∧ pieces.length = places.card + 1

/-- Where no quote is open in a piece of a text by itself, none is open in the text. -/
def AgreesBehind (before piece : List Char) : Prop :=
  ∀ start rest, piece = start ++ rest →
    (Even (start.count '"') ↔ Even ((before ++ start).count '"'))

theorem exactCut_splitDoubled (hmark : mark = '|' ∨ mark = '&') (text : String) :
    ExactCut mark text (splitDoubled mark text.toList) := by
  have hquote : mark ≠ '"' := by rcases hmark with rfl | rfl <;> decide
  have hsize : mark.utf8Size = 1 := by rcases hmark with rfl | rfl <;> decide
  have hpieces : Pieces mark false text.toList (splitDoubled mark text.toList) :=
    .splitDoubled hquote text.toList
  have hstart : Scanned text 0 0 [] [] text.toList := ⟨by simp, rfl, rfl⟩
  refine ⟨?_, hpieces.intercalate_eq, ?_, ?_, hpieces.exists_leftmost hquote⟩
  · have hslices : List.Forall₂ (Slices text) (stretches mark false 0 0 text.toList) _ :=
      hstart.forall₂_stretches hsize
    rwa [modifyHead_nil_append] at hslices
  · exact fun piece hpiece => openAfter_false_iff.1 (hpieces.openAfter_of_mem_dropLast piece hpiece)
  · intro piece hpiece before after heq heven
    have hopen := hpieces.uncut_of_mem piece hpiece before after heq
    cases hopen.symm.trans (openAfter_false_iff.2 heven)

/-- Both splits are exact. What is cut out of a text by `||`, and what is cut out of that by
`&&`, stands in the text behind the pieces before it and their marks, and in all of it quotes are
open where they are open in the text. -/
theorem splitDoubled_exact (mark : Char) (hmark : mark = '|' ∨ mark = '&') (text : String) :
    ExactCut mark text (splitDoubled mark text.toList) ∧
    (∀ places others, Leftmost mark text.toList places → Leftmost mark text.toList others →
      places = others) ∧
    ∀ before disjunct after, splitDoubled '|' text.toList = before ++ disjunct :: after →
      (∃ rest, text.toList = front '|' before ++ (disjunct ++ rest)) ∧
      AgreesBehind (front '|' before) disjunct ∧
      ∀ inner clause outer, splitDoubled '&' disjunct = inner ++ clause :: outer →
        (∃ rest, disjunct = front '&' inner ++ (clause ++ rest)) ∧
        AgreesBehind (front '|' before ++ front '&' inner) clause := by
  refine ⟨exactCut_splitDoubled hmark text, fun _ _ h hothers => h.unique hothers, ?_⟩
  intro before disjunct after hsplit
  have hdisjuncts : Pieces '|' false text.toList _ := .splitDoubled (by decide) _
  obtain ⟨hrest, hfront⟩ := (hsplit ▸ hdisjuncts).exists_rest (by decide)
  refine ⟨hrest, fun start _ _ => (even_count_append_iff hfront start).symm, ?_⟩
  intro inner clause outer hinner
  have hclauses : Pieces '&' false disjunct _ := .splitDoubled (by decide) _
  obtain ⟨hrest', hfront'⟩ := (hinner ▸ hclauses).exists_rest (by decide)
  refine ⟨hrest', fun start _ _ => ?_⟩
  have hboth : openAfter false (front '|' before ++ front '&' inner) = false := by
    rw [openAfter_append, hfront, hfront']
  exact (even_count_append_iff hboth start).symm

theorem splitDoubled_exact_sample :
    let text := "é|||\"||\"&&ü||"
    ('|' = '|' ∨ '|' = '&') ∧
      splitDoubled '|' text.toList = ["é".toList, "|\"||\"&&ü".toList, []] ∧
      ExactCut '|' text (splitDoubled '|' text.toList) :=
  ⟨.inl rfl, by decide, (splitDoubled_exact '|' (.inl rfl) _).1⟩

example : stretches '|' false 0 0 "é|||\"||\"&&ü||".toList = [(0, 2), (4, 13), (15, 15)] := by
  decide

end Vigil.Script
