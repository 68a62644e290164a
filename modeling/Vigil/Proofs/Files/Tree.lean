import Vigil.Files.Tree

/-!
# What is written to a file is read from it

A file may be put in a place where no directory is. The way to the place leads through
directories only, so it stays as it is when the file is put there (`walk_set`), and the path
leads to the file afterwards.
-/

namespace Vigil

/-! ### Paths with an extension -/

namespace Path

/-- The path ends in a point and the extension, and something of the name stands before the
point. -/
def HasExtension (extension path : String) : Prop :=
  ∃ front c, c ≠ '/' ∧ path.toList = front ++ c :: '.' :: extension.toList

/-- What an extension may be. -/
structure IsExtension (extension : String) : Prop where
  ne_nil : extension.toList ≠ []
  plain : ∀ c ∈ extension.toList, c ≠ '/' ∧ c ≠ '.'

variable {extension path : String} {front : List Char} {c : Char}

theorem IsExtension.takeWhile_reverse (h : IsExtension extension) (x : Char)
    (hx : x = '/' ∨ x = '.') (rest : List Char) :
    (extension.toList.reverse ++ rest).takeWhile (· != x) =
        extension.toList.reverse ++ rest.takeWhile (· != x) ∧
      (extension.toList.reverse ++ rest).dropWhile (· != x) = rest.dropWhile (· != x) := by
  have hall : ∀ c ∈ extension.toList.reverse, (c != x) = true := by
    intro c hc
    have hplain := h.plain c (List.mem_reverse.1 hc)
    rw [bne_iff_ne]
    rcases hx with rfl | rfl
    · exact hplain.1
    · exact hplain.2
  exact ⟨List.takeWhile_append_of_pos hall, List.dropWhile_append_of_pos hall⟩

/-- Nothing is at the end of a path with an extension that would be trimmed. -/
theorem trimEnd_of_isExtension (h : IsExtension extension) (front : List Char) :
    trimEnd (front ++ extension.toList) = front ++ extension.toList := by
  have hgo {x : Char} (hslash : x ≠ '/') (hdot : x ≠ '.') (rest : List Char) :
      trimEnd.go (x :: rest) = x :: rest := by
    unfold trimEnd.go
    split <;> simp_all
  obtain ⟨x, more, heq⟩ := List.exists_cons_of_ne_nil (List.reverse_ne_nil_iff.2 h.ne_nil)
  have hx := h.plain x (List.mem_reverse.1 (heq ▸ List.mem_cons_self))
  rw [trimEnd, List.reverse_append, heq, List.cons_append, hgo hx.1 hx.2, ← List.cons_append, ← heq,
    List.reverse_append, List.reverse_reverse, List.reverse_reverse]

/-- A path that has an extension already stays as it is. -/
theorem withExtension_of_hasExtension (hextension : IsExtension extension)
    (h : HasExtension extension path) : withExtension extension path = path := by
  obtain ⟨front, c, hc, hpath⟩ := h
  have htrim : (trimEnd path.toList).reverse =
      extension.toList.reverse ++ '.' :: c :: front.reverse := by
    rw [hpath, List.append_cons, List.append_cons, trimEnd_of_isExtension hextension]
    simp
  obtain ⟨name, hname⟩ : ∃ name,
      name = ((trimEnd path.toList).reverse.takeWhile (· != '/')).reverse := ⟨_, rfl⟩
  have hreverse : name.reverse =
      extension.toList.reverse ++ '.' :: c :: front.reverse.takeWhile (· != '/') := by
    rw [hname, List.reverse_reverse, htrim, (hextension.takeWhile_reverse '/' (.inl rfl) _).1,
      List.takeWhile_cons_of_pos (by decide), List.takeWhile_cons_of_pos (by simpa using hc)]
  have hlong : 2 < name.length := by
    have hpositive := List.length_pos_iff.2 hextension.ne_nil
    rw [← List.length_reverse, hreverse, List.length_append, List.length_reverse, List.length_cons,
      List.length_cons]
    omega
  have hcut : (cutExtension name).2 = some extension.toList := by
    have htake := hextension.takeWhile_reverse '.' (.inr rfl)
      ('.' :: c :: front.reverse.takeWhile (· != '/'))
    rw [List.takeWhile_cons_of_neg (by decide), List.dropWhile_cons_of_neg (by decide),
      List.append_nil] at htake
    rw [cutExtension, hreverse, htake.1, htake.2]
    simp
  obtain ⟨directory, hnamed⟩ : ∃ directory, cutName? path.toList = some (directory, name) := by
    refine ⟨((trimEnd path.toList).reverse.dropWhile (· != '/')).reverse, ?_⟩
    unfold cutName?
    dsimp only
    rw [← hname, if_neg]
    rintro (rfl | rfl | rfl) <;> exact absurd hlong (by decide)
  rcases heq : cutExtension name with ⟨stem, old⟩
  rw [heq] at hcut
  simp only [withExtension, hnamed, heq]
  exact if_pos hcut

end Path

/-! ### Octets of texts -/

theorem toList_loop_octets (octets : ByteArray) (i : Nat) (r : List UInt8) :
    ByteArray.toList.loop octets i r = r.reverse ++ octets.data.toList.drop i := by
  induction i, r using ByteArray.toList.loop.induct octets with
  | case1 i r h ih =>
      have hget : octets.get! i = octets.data.toList[i] :=
        (getElem!_pos octets.data i h).trans (Array.getElem_toList h).symm
      rw [ByteArray.toList.loop, if_pos h, ih, List.reverse_cons, List.append_assoc,
        List.singleton_append, hget, ← List.drop_eq_getElem_cons]
  | case2 i r h =>
      rw [ByteArray.toList.loop, if_neg h, List.drop_eq_nil_of_le (Nat.le_of_not_lt h),
        List.append_nil]

theorem toList_eq_data (octets : ByteArray) : octets.toList = octets.data.toList := by
  rw [ByteArray.toList, toList_loop_octets]
  rfl

/-- The octets of a text are those of the text again. -/
theorem fromUTF8?_toUTF8 (text : String) :
    String.fromUTF8? ⟨text.toUTF8.toList.toArray⟩ = some text := by
  rw [toList_eq_data, Array.toArray_toList]
  exact dif_pos text.isValidUTF8

/-- The octets of a text are those of its characters. -/
theorem toList_toUTF8 (text : String) :
    text.toUTF8.toList = text.toList.flatMap String.utf8EncodeChar := by
  rw [toList_eq_data, String.toUTF8, ← String.utf8Encode_toList, List.utf8Encode,
    List.toList_data_toByteArray]

/-- The octet of a line end is part of no other character. -/
theorem eq_lineEnd_of_mem_utf8EncodeChar {c : Char} (h : 10 ∈ String.utf8EncodeChar c) :
    c = '\n' := by
  have hoctet {n : Nat} (hn : n < 256) (heq : 10 = UInt8.ofNat n) : n = 10 := by
    have htoNat := congrArg UInt8.toNat heq
    rw [UInt8.toNat_ofNat', Nat.mod_eq_of_lt hn] at htoNat
    exact htoNat.symm
  -- All octets of longer characters are 128 at least.
  have hhigh {n : Nat} (hn : 128 ≤ n ∧ n < 256) : 10 ≠ UInt8.ofNat n := fun heq =>
    absurd (hoctet hn.2 heq) (by omega)
  have hc : c.val.toNat = 10 := by
    unfold String.utf8EncodeChar at h
    dsimp only at h
    split at h
    · exact hoctet (by omega) (List.mem_singleton.1 h)
    exfalso
    split at h
    · simp only [List.mem_cons, List.not_mem_nil, or_false] at h
      rcases h with h | h <;> exact hhigh (by omega) h
    split at h
    · simp only [List.mem_cons, List.not_mem_nil, or_false] at h
      rcases h with h | h | h <;> exact hhigh (by omega) h
    · simp only [List.mem_cons, List.not_mem_nil, or_false] at h
      rcases h with h | h | h | h <;> exact hhigh (by omega) h
  exact Char.ext (UInt32.toNat_inj.1 hc)

/-! ### Entries -/

/-- Leaving entries out by their keys leaves the others as they are. -/
theorem lookup_filter_key {α β : Type} [BEq α] [LawfulBEq α] (keep : α → Bool)
    (entries : List (α × β)) (key : α) :
    (entries.filter fun p => keep p.1).lookup key =
      if keep key then entries.lookup key else none := by
  induction entries with
  | nil => exact (ite_self none).symm
  | cons p entries ih =>
      obtain ⟨k, v⟩ := p
      by_cases hkey : key = k
      · subst hkey
        cases hkeep : keep key <;> simp [hkeep, ih]
      · have hne : (key == k) = false := beq_eq_false_iff_ne.2 hkey
        cases hkeep : keep k <;> simp [List.lookup_cons, hkeep, hne, ih]

namespace FileTree

variable {t : FileTree} {place other : Place} {e : FileEntry}

theorem entry?_set_self (t : FileTree) (h : place ≠ []) (e : FileEntry) :
    FileTree.entry? (t.set place e) place = some e := by
  rw [ entry?, if_neg h, set, List.lookup_cons_self]

theorem entry?_set_of_ne (t : FileTree) (h : other ≠ place) (e : FileEntry) :
    FileTree.entry? (t.set place e) other = t.entry? other := by
  rw [ entry?, entry?, set, List.lookup_cons, beq_eq_false_iff_ne.2 h,
    lookup_filter_key (· != place), if_pos (bne_iff_ne.2 h)]

/-- A place that is walked to is still walked to when an entry is put where no directory is. -/
theorem walk_set {here place target : Place} {names : List String}
    (hplace : t.entry? place ≠ some .directory) (h : t.walk here names = .ok target)
    (e : FileEntry) : (t.set place e).walk here names = .ok target := by
  induction names generalizing here with
  | nil => exact h
  | cons p names ih =>
      rw [walk] at h ⊢
      split at h
      · next hup =>
        rw [if_pos hup]
        exact ih h
      · next hup =>
        rw [if_neg hup]
        split at h
        · cases h
        · next hlength =>
          rw [if_neg hlength]
          dsimp only at h ⊢
          split at h
          · next hlast =>
            rw [if_pos hlast]
            exact h
          · next hlast =>
            rw [if_neg hlast]
            cases hentry : t.entry? (here ++ [p]) with
            | none =>
                rw [hentry] at h
                cases h
            | some entry =>
                rw [hentry] at h
                cases entry with
                | file octets => cases h
                | directory =>
                    have hne : here ++ [p] ≠ place := fun heq => hplace (heq ▸ hentry)
                    rw [entry?_set_of_ne t hne, hentry]
                    exact ih h

theorem locate_set {path : String} (hplace : t.entry? place ≠ some .directory)
    (h : t.locate path = .ok place) (e : FileEntry) : (t.set place e).locate path = .ok place := by
  unfold locate at h ⊢
  split at h
  · cases h
  · next hname =>
    rw [if_neg hname]
    exact walk_set hplace h e

theorem placeOfFile_eq_ok {path : String} (h : t.placeOfFile path = .ok place) :
    t.locate path = .ok place ∧ path.endsWith "/" = false ∧ t.entry? place ≠ some .directory := by
  unfold placeOfFile at h
  cases hlocate : t.locate path with
  | error e =>
      rw [hlocate] at h
      cases h
  | ok found =>
      rw [hlocate] at h
      cases hslash : path.endsWith "/" with
      | true =>
          rw [hslash] at h
          cases h
      | false =>
          simp only [hslash, bind, Except.bind, Bool.false_eq_true, if_false] at h
          split at h
          · cases h
          · next hnot =>
            cases h
            exact ⟨rfl, rfl, hnot⟩

/-- A file that was put in a place is what the path to the place leads to. -/
theorem lookup_set {path : String} (h : t.placeOfFile path = .ok place) (octets : List UInt8) :
    (t.set place (.file octets)).lookup path = .ok (.file octets) := by
  obtain ⟨hlocate, hslash, hentry⟩ := placeOfFile_eq_ok h
  have hplace : place ≠ [] := by
    rintro rfl
    exact hentry rfl
  simp only [lookup, locate_set hentry hlocate, bind, Except.bind, entry?_set_self t hplace, hslash]
  rfl

theorem readText_set {path : String} (h : t.placeOfFile path = .ok place) (text : String) :
    (t.set place (.file text.toUTF8.toList)).readText path = .ok text := by
  simp only [readText, read, lookup_set h, bind, Except.bind, pure, Except.pure, fromUTF8?_toUTF8]

theorem set_set (t : FileTree) (place : Place) (e f : FileEntry) :
    (t.set place e).set place f = t.set place f := by
  simp only [set, List.filter_cons, bne_self_eq_false, Bool.false_eq_true, if_false,
    List.filter_filter, Bool.and_self]

/-- A file may be written again where it was put. -/
theorem placeOfFile_set {path : String} (h : t.placeOfFile path = .ok place)
    (octets : List UInt8) : (t.set place (.file octets)).placeOfFile path = .ok place := by
  obtain ⟨hlocate, hslash, hentry⟩ := placeOfFile_eq_ok h
  have hplace : place ≠ [] := by
    rintro rfl
    exact hentry rfl
  simp only [placeOfFile, locate_set hentry hlocate, bind, Except.bind, hslash,
    entry?_set_self t hplace]
  rfl

/-! ### Files that grow -/

/-- The octets that are at a place, none if no file is there. -/
def octetsAt (t : FileTree) (place : Place) : List UInt8 :=
  match t.entry? place with
  | some (.file octets) => octets
  | _ => []

theorem append_of_placeOfFile {path : String} (h : t.placeOfFile path = .ok place)
    (octets : List UInt8) :
    t.append path octets = .ok (t.set place (.file (t.octetsAt place ++ octets))) := by
  rw [append, h]
  rfl

theorem append_eq_ok {path : String} {octets : List UInt8} {u : FileTree}
    (h : t.append path octets = .ok u) :
    ∃ place, t.placeOfFile path = .ok place ∧
      u = t.set place (.file (t.octetsAt place ++ octets)) := by
  cases hplace : t.placeOfFile path with
  | error e =>
      rw [append, hplace] at h
      cases h
  | ok place =>
      rw [append_of_placeOfFile hplace] at h
      cases h
      exact ⟨place, rfl, rfl⟩

theorem placeOfFile_of_append {path : String} {octets : List UInt8} {u : FileTree}
    (hplace : t.placeOfFile path = .ok place) (h : t.append path octets = .ok u) :
    u.placeOfFile path = .ok place := by
  rw [append_of_placeOfFile hplace] at h
  cases h
  exact placeOfFile_set hplace _

/-- Octets may be appended in two parts. -/
theorem append_append {path : String} {first : List UInt8} {u : FileTree}
    (h : t.append path first = .ok u) (second : List UInt8) :
    u.append path second = t.append path (first ++ second) := by
  obtain ⟨place, hplace, rfl⟩ := append_eq_ok h
  have hroot : place ≠ [] := by
    rintro rfl
    exact (placeOfFile_eq_ok hplace).2.2 rfl
  rw [append_of_placeOfFile (placeOfFile_set hplace _), append_of_placeOfFile hplace, set_set,
    octetsAt, entry?_set_self t hroot, List.append_assoc]

/-- What is appended to a file that was not there is all that is read from it. -/
theorem read_of_append {path : String} {octets : List UInt8} {u : FileTree}
    (habsent : t.contains path = false) (h : t.append path octets = .ok u) :
    u.read path = .ok octets := by
  obtain ⟨place, hplace, rfl⟩ := append_eq_ok h
  have hnone : t.octetsAt place = [] := by
    obtain ⟨hlocate, hslash, -⟩ := placeOfFile_eq_ok hplace
    unfold octetsAt
    split
    · next old hold =>
      simp only [contains, lookup, hlocate, bind, Except.bind, hold, hslash] at habsent
      cases habsent
    · rfl
  simp only [hnone, List.nil_append, read, lookup_set hplace, bind, Except.bind, pure, Except.pure]

/-- A path that text is read from leads to something. -/
theorem contains_of_readText {path text : String} (h : t.readText path = .ok text) :
    t.contains path = true := by
  unfold contains
  cases hlookup : t.lookup path with
  | ok entry => rfl
  | error e =>
      simp only [readText, read, hlookup, bind, Except.bind] at h
      cases h

end FileTree

end Vigil
