import Vigil.Toml.Document

/-!
# Documents of plain sections

A document of this kind is made of sections: a header with a name in brackets, and under it
lines of keys and values. Its text is read line by line (`Reads`), and the document that the
statements build has one table for each section (`ofText?_of_reads`).
-/

namespace Vigil.Toml

variable {c x : Char} {s rest text : List Char} {key name : String} {v : Toml} {n : Nat}

/-! ### Keys -/

/-- A name that may stand as a key without quotes. -/
def IsKey (name : String) : Prop := name.toList ≠ [] ∧ ∀ c ∈ name.toList, isKeyChar c = true

instance (name : String) : Decidable (IsKey name) :=
  decidable_of_iff (name.toList ≠ [] ∧ name.toList.all isKeyChar = true)
    (by rw [IsKey, List.all_eq_true])

theorem ne_of_isKeyChar (hc : isKeyChar c = true) (hx : isKeyChar x = false) : c ≠ x := by
  rintro rfl
  rw [hc] at hx
  cases hx

theorem isSpace_of_isKeyChar (hc : isKeyChar c = true) : isSpace c = false := by
  rw [isSpace, Bool.or_eq_false_iff, beq_eq_false_iff_ne, beq_eq_false_iff_ne]
  exact ⟨ne_of_isKeyChar hc rfl, ne_of_isKeyChar hc rfl⟩

theorem skipSpaces_cons (hc : isSpace c = false) (s : List Char) :
    skipSpaces (c :: s) = c :: s :=
  List.dropWhile_cons_of_neg (by simp [hc])

theorem exists_toList_eq (h : IsKey name) :
    ∃ c s, name.toList = c :: s ∧ isKeyChar c = true := by
  obtain ⟨c, s, heq⟩ := List.exists_cons_of_ne_nil h.1
  exact ⟨c, s, heq, h.2 c (heq ▸ List.mem_cons_self)⟩

theorem readKeyPart?_append (h : IsKey name) (hx : isKeyChar x = false) (rest : List Char) :
    readKeyPart? (name.toList ++ x :: rest) = some (name, x :: rest) := by
  have htake : (name.toList ++ x :: rest).takeWhile isKeyChar = name.toList := by
    rw [List.takeWhile_append_of_pos h.2, List.takeWhile_cons_of_neg (by simp [hx]),
      List.append_nil]
  have hdrop : (name.toList ++ x :: rest).dropWhile isKeyChar = x :: rest := by
    rw [List.dropWhile_append_of_pos h.2, List.dropWhile_cons_of_neg (by simp [hx])]
  obtain ⟨c, s, heq, hc⟩ := exists_toList_eq h
  unfold readKeyPart?
  split
  · next hquote =>
    rw [heq] at hquote
    exact absurd (List.cons.inj hquote).1 (ne_of_isKeyChar hc rfl)
  · next hquote =>
    rw [heq] at hquote
    exact absurd (List.cons.inj hquote).1 (ne_of_isKeyChar hc rfl)
  · simp [htake, hdrop, h.1]

/-- A key of one part is read to the end of the blanks after it. -/
theorem readKey?_append (h : IsKey name) (hx : isKeyChar x = false)
    (hdot : ∀ more, skipSpaces (x :: rest) ≠ '.' :: more) :
    readKey? (n + 1) (name.toList ++ x :: rest) = some ([name], skipSpaces (x :: rest)) := by
  obtain ⟨c, s, heq, hc⟩ := exists_toList_eq h
  have hskip : skipSpaces (name.toList ++ x :: rest) = name.toList ++ x :: rest := by
    rw [heq]
    exact skipSpaces_cons (isSpace_of_isKeyChar hc) _
  simp only [readKey?, hskip, readKeyPart?_append h hx, Option.bind_eq_bind, Option.bind_some,
    Option.pure_def]

/-! ### Lines -/

/-- A text is read as a value at the end of a line. -/
structure Spells (text : List Char) (v : Toml) : Prop where
  head : ∀ c ∈ text.head?, isSpace c = false
  read : ∀ rest, readValue? (maxDepth + 1) (text ++ '\n' :: rest) = some (v, '\n' :: rest)

/-- The line of a header. -/
def headerLine (name : String) : List Char := '[' :: name.toList ++ [']', '\n']

/-- The line of a key and a value. -/
def pairLine (key : String) (text : List Char) : List Char :=
  key.toList ++ [' ', '=', ' '] ++ text ++ ['\n']

theorem endLine?_line (rest : List Char) : endLine? ('\n' :: rest) = some rest := rfl

theorem readStatement?_header (h : IsKey name) (rest : List Char) :
    readStatement? (headerLine name ++ rest) = some (.header false [name], rest) := by
  obtain ⟨c, s, heq, hc⟩ := exists_toList_eq h
  have hkey : readKey? maxDepth (name.toList ++ ']' :: '\n' :: rest) =
      some ([name], ']' :: '\n' :: rest) :=
    readKey?_append h rfl fun more heq => absurd (List.cons.inj heq).1 (by decide)
  have hheader : readHeader? ('[' :: (name.toList ++ ']' :: '\n' :: rest)) =
      some (.header false [name], '\n' :: rest) := by
    rw [readHeader?, hkey]
    · rfl
    · intro more hmore
      rw [heq] at hmore
      exact absurd (List.cons.inj hmore).1 (ne_of_isKeyChar hc rfl)
  simp only [headerLine, List.cons_append, List.append_assoc, List.nil_append, readStatement?,
    hheader, Option.bind_eq_bind, Option.bind_some, endLine?_line, Option.pure_def]

theorem readStatement?_pair (h : IsKey key) (htext : Spells text v) (rest : List Char) :
    readStatement? (pairLine key text ++ rest) = some (.pair [key] v, rest) := by
  obtain ⟨c, s, heq, hc⟩ := exists_toList_eq h
  have hkey : readKey? maxDepth (key.toList ++ ' ' :: '=' :: ' ' :: (text ++ '\n' :: rest)) =
      some ([key], '=' :: ' ' :: (text ++ '\n' :: rest)) :=
    readKey?_append h rfl fun more heq => absurd (List.cons.inj heq).1 (by decide)
  have hskip : skipSpaces (' ' :: (text ++ '\n' :: rest)) = text ++ '\n' :: rest := by
    have hhead := htext.head
    cases text with
    | nil => rfl
    | cons c text => exact skipSpaces_cons (hhead c rfl) _
  have hpair : readPair? (readValue? (maxDepth + 1))
      (key.toList ++ ' ' :: '=' :: ' ' :: (text ++ '\n' :: rest)) =
        some (([key], v), '\n' :: rest) := by
    simp only [readPair?, hkey, hskip, htext.read, Option.bind_eq_bind, Option.bind_some,
      Option.pure_def]
  simp only [pairLine, List.append_assoc, List.cons_append, List.nil_append, readStatement?]
  split
  · next hbracket =>
    rw [heq] at hbracket
    exact absurd (List.cons.inj hbracket).1 (ne_of_isKeyChar hc rfl)
  · simp only [hpair, Option.map_some, Option.bind_eq_bind, Option.bind_some, endLine?_line,
      Option.pure_def]

/-! ### Texts of lines -/

/-- A text is read as statements, and to its end. -/
def Reads (s : List Char) (statements : List Statement) : Prop :=
  ∀ n, s.length < n → readAll? n s = some statements

namespace Reads

variable {statements : List Statement}

theorem nil : Reads [] [] := by
  rintro (_ | n) hn
  · cases hn
  · rfl

/-- Empty lines are passed over. -/
theorem blank (h : Reads s statements) : Reads ('\n' :: s) statements := by
  rintro (_ | n) hn
  · cases hn
  · have hread := h (n + 1) (by rw [List.length_cons] at hn; omega)
    have hskip : skipLines? (('\n' :: s).length + 1) ('\n' :: s) =
        skipLines? (s.length + 1) s := rfl
    rw [readAll?] at hread ⊢
    rw [hskip]
    exact hread

/-- A statement on a line of its own, which starts with the statement. -/
theorem line {line : List Char} {statement : Statement} (hhead : line.head? = some c)
    (hspace : isSpace c = false) (hcomment : c ≠ '#') (hline : c ≠ '\n') (hreturn : c ≠ '\r')
    (hstatement : readStatement? (line ++ s) = some (statement, s)) (h : Reads s statements) :
    Reads (line ++ s) (statement :: statements) := by
  obtain ⟨more, rfl⟩ := List.head?_eq_some_iff.1 hhead
  rintro (_ | n) hn
  · cases hn
  · have hskip : skipLines? ((c :: more ++ s).length + 1) (c :: more ++ s) =
        some (c :: more ++ s) := by
      have hcut : skipComment? (c :: (more ++ s)) = some (c :: (more ++ s)) := by
        unfold skipComment?
        split
        · next heq => exact absurd (List.cons.inj heq).1 hcomment
        · rfl
      have hstart : startsLine (c :: (more ++ s)) = false := by
        unfold startsLine
        split <;> simp_all
      simp only [List.cons_append, skipLines?, skipSpaces_cons hspace, hcut, hstart,
        Option.bind_eq_bind, Option.bind_some, Bool.false_eq_true, if_false]
    have hread := h n (by rw [List.length_append, List.length_cons] at hn; omega)
    rw [readAll?, hskip]
    simp only [List.cons_append] at hstatement ⊢
    simp only [Option.bind_eq_bind, Option.bind_some, hstatement, hread, Option.pure_def]

theorem header (hname : IsKey name) (h : Reads s statements) :
    Reads (headerLine name ++ s) (.header false [name] :: statements) :=
  line rfl rfl (by decide) (by decide) (by decide) (readStatement?_header hname s) h

theorem pair (hkey : IsKey key) (htext : Spells text v) (h : Reads s statements) :
    Reads (pairLine key text ++ s) (.pair [key] v :: statements) := by
  obtain ⟨c, more, heq, hc⟩ := exists_toList_eq hkey
  refine line ?_ (isSpace_of_isKeyChar hc) (ne_of_isKeyChar hc rfl) (ne_of_isKeyChar hc rfl)
    (ne_of_isKeyChar hc rfl) (readStatement?_pair hkey htext s) h
  simp [pairLine, heq]

end Reads

/-- The statements of a text that starts with none of the marks of an order of octets. -/
theorem statements?_of_reads {t : String} {statements : List Statement}
    (h : Reads t.toList statements) (hmark : t.toList.head? ≠ some '\ufeff') :
    statements? t = some statements := by
  unfold statements?
  dsimp only
  split
  · next heq =>
    rw [heq] at hmark
    exact absurd rfl hmark
  · exact h _ (Nat.lt_succ_self _)

/-! ### Documents -/

theorem lookup_eq_none {t : Fields} (h : name ∉ t.map (·.1)) : t.lookup name = none := by
  rw [List.lookup_eq_none_iff]
  intro p hp
  rw [bne_iff_ne]
  rintro rfl
  exact h (List.mem_map_of_mem hp)

theorem lookup_append_singleton {t : Fields} (h : name ∉ t.map (·.1)) (v : Toml) :
    (t ++ [(name, v)]).lookup name = some v := by
  rw [List.lookup_append, lookup_eq_none h, Option.none_or, List.lookup_cons_self]

theorem replace_append_singleton {t : Fields} (h : name ∉ t.map (·.1)) (v w : Toml) :
    replace name w (t ++ [(name, v)]) = t ++ [(name, w)] := by
  unfold replace
  rw [List.map_append]
  congr 1
  · refine (List.map_congr_left fun p hp => if_neg ?_).trans (List.map_id t)
    rintro rfl
    exact h (List.mem_map_of_mem hp)
  · exact congrArg ([·]) (if_pos rfl)

namespace Document

theorem extend?_header {t : Fields} (h : name ∉ t.map (·.1)) (current : List String) :
    extend? ⟨t, current⟩ (.header false [name]) =
      some ⟨t ++ [(name, .table .headed [])], [name]⟩ := by
  simp only [extend?, define?, List.getLast?_singleton, List.dropLast_singleton, alter?,
    lookup_eq_none h, Option.map_some]

/-- A key that is new goes to the end of the last table. -/
theorem extend?_pair {t u : Fields} (h : name ∉ t.map (·.1)) (hkey : key ∉ u.map (·.1))
    (v : Toml) :
    extend? ⟨t ++ [(name, .table .headed u)], [name]⟩ (.pair [key] v) =
      some ⟨t ++ [(name, .table .headed (u ++ [(key, v)]))], [name]⟩ := by
  have hnew : u.any (·.1 == key) = false := by
    rw [List.any_eq_false]
    intro p hp
    rw [beq_iff_eq]
    rintro rfl
    exact hkey (List.mem_map_of_mem hp)
  have hinsert : insert? [key] v u = some (u ++ [(key, v)]) := by
    simp only [insert?, List.getLast?_singleton, List.dropLast_singleton, alter?, hnew,
      Bool.false_eq_true, if_false]
  simp [extend?, alter?, lookup_append_singleton h, hinsert, replace_append_singleton h]

end Document

/-- The statements of keys and values. -/
def pairsOf (fields : Fields) : List Statement := fields.map fun p => .pair [p.1] p.2

/-- The statements of sections. -/
def statementsOf (sections : List (String × Fields)) : List Statement :=
  sections.flatMap fun p => .header false [p.1] :: pairsOf p.2

theorem statementsOf_cons (name : String) (fields : Fields) (sections : List (String × Fields)) :
    statementsOf ((name, fields) :: sections) =
      .header false [name] :: (pairsOf fields ++ statementsOf sections) := rfl

/-- The tables that sections write. -/
def tablesOf (sections : List (String × Fields)) : Fields :=
  sections.map fun p => (p.1, .table .headed p.2)

/-- Names are given once, and so are the keys of each section. -/
structure Distinct (sections : List (String × Fields)) : Prop where
  names : (sections.map (·.1)).Nodup
  keys : ∀ p ∈ sections, (p.2.map (·.1)).Nodup

theorem foldlM_pairsOf {t u fields : Fields} (h : name ∉ t.map (·.1))
    (hkeys : ((u ++ fields).map (·.1)).Nodup) :
    (pairsOf fields).foldlM Document.extend? ⟨t ++ [(name, .table .headed u)], [name]⟩ =
      some ⟨t ++ [(name, .table .headed (u ++ fields))], [name]⟩ := by
  induction fields generalizing u with
  | nil => rw [List.append_nil]; rfl
  | cons p fields ih =>
      have hfresh : p.1 ∉ u.map (·.1) := by
        rw [List.map_append, List.map_cons] at hkeys
        intro hmem
        exact (List.nodup_append.1 hkeys).2.2 p.1 hmem p.1 List.mem_cons_self rfl
      rw [pairsOf, List.map_cons, List.foldlM_cons, Document.extend?_pair h hfresh,
        Option.bind_eq_bind, Option.bind_some, List.append_cons u p fields]
      exact ih (by rwa [← List.append_cons])

theorem foldlM_statementsOf {t : Fields} {sections : List (String × Fields)}
    (hnames : (t.map (·.1) ++ sections.map (·.1)).Nodup)
    (hkeys : ∀ p ∈ sections, (p.2.map (·.1)).Nodup) (current : List String) :
    ∃ last, (statementsOf sections).foldlM Document.extend? ⟨t, current⟩ =
      some ⟨t ++ tablesOf sections, last⟩ := by
  induction sections generalizing t current with
  | nil => exact ⟨current, by rw [tablesOf, List.map_nil, List.append_nil]; rfl⟩
  | cons p sections ih =>
      obtain ⟨name, fields⟩ := p
      have hname : name ∉ t.map (·.1) := by
        intro hmem
        exact (List.nodup_append.1 hnames).2.2 name hmem name List.mem_cons_self rfl
      have hpairs := foldlM_pairsOf (u := []) hname (hkeys (name, fields) List.mem_cons_self)
      obtain ⟨last, hlast⟩ := ih (t := t ++ [(name, .table .headed fields)]) (by simpa using hnames)
        (fun p hp => hkeys p (List.mem_cons_of_mem _ hp)) [name]
      refine ⟨last, ?_⟩
      rw [statementsOf_cons, List.foldlM_cons, Document.extend?_header hname, Option.bind_eq_bind,
        Option.bind_some, List.foldlM_append, hpairs, Option.bind_eq_bind, Option.bind_some,
        List.nil_append, hlast, List.append_assoc]
      rfl

/-- The table that a text of sections writes. -/
theorem ofText?_of_reads {t : String} {sections : List (String × Fields)}
    (hdistinct : Distinct sections) (hreads : Reads t.toList (statementsOf sections))
    (hmark : t.toList.head? ≠ some '\ufeff') :
    ofText? t = some (.table .headed (tablesOf sections)) := by
  obtain ⟨last, hlast⟩ := foldlM_statementsOf (t := []) hdistinct.names hdistinct.keys []
  rw [ofText?, statements?_of_reads hreads hmark, Option.bind_eq_bind, Option.bind_some,
    Document.empty, hlast]
  rfl

end Vigil.Toml
