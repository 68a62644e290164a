import Mathlib.Algebra.Group.Nat.Defs
import Mathlib.Data.List.Nodup
import Vigil.Proofs.Except
import Vigil.Store.Table

/-!
# Tables with numbered rows

A table to which rows are added one by one, each under the next number, keeps a list:
its rows are those of the list in order, and their numbers rise. Rows that rise in a
column as well come out of the newest-first order from the last one to the first, and a
limit takes as many of them as it says, since a limit that wraps below zero is above the
length of every list that fits into memory.
-/

namespace Vigil.Table

variable {α : Type} {write : α → Row} {t : Table} {xs : List α}

/-- The row of a value under a number. -/
def numbered (write : α → Row) (e : Int × α) : Row := .integer e.1 :: write e.2

/-- The rows of `t` are those of the values of `xs`, under numbers that rise up to the
last number of the table. -/
def Keeps (t : Table) (write : α → Row) (xs : List α) : Prop :=
  ∃ entries : List (Int × α), t.rows = entries.map (numbered write) ∧
    entries.map Prod.snd = xs ∧ entries.Pairwise (fun d e => d.1 < e.1) ∧
    ∀ e ∈ entries, e.1 ≤ t.lastNumber

theorem keeps_empty (write : α → Row) : empty.Keeps write [] :=
  ⟨[], rfl, rfl, .nil, by simp⟩

namespace Keeps

theorem length_eq (h : t.Keeps write xs) : t.rows.length = xs.length := by
  obtain ⟨entries, hrows, rfl, -, -⟩ := h
  rw [hrows, List.length_map, List.length_map]

theorem append (h : t.Keeps write xs) (x : α) :
    (t.appendNumbered (write x)).Keeps write (xs ++ [x]) := by
  obtain ⟨entries, hrows, rfl, hrise, hlast⟩ := h
  refine ⟨entries ++ [(t.lastNumber + 1, x)], ?_, by simp, ?_, ?_⟩
  · rw [List.map_append, ← hrows]
    rfl
  · refine List.pairwise_append.2 ⟨hrise, List.pairwise_singleton _ _, ?_⟩
    intro d hd e he
    obtain rfl := List.mem_singleton.1 he
    exact Int.lt_add_one_of_le (hlast d hd)
  · intro e he
    rcases List.mem_append.1 he with he | he
    · exact Int.le_trans (hlast e he) (by simp only [appendNumbered]; omega)
    · obtain rfl := List.mem_singleton.1 he
      exact Int.le_refl _

/-- The rows that a test chooses are those of the values that it stands for. -/
theorem filter (h : t.Keeps write xs) {p : Row → Bool} {keep : α → Bool}
    (hp : ∀ x ∈ xs, ∀ n, p (.integer n :: write x) = keep x) :
    Keeps ⟨t.rows.filter p, t.lastNumber⟩ write (xs.filter keep) := by
  obtain ⟨entries, hrows, rfl, hrise, hlast⟩ := h
  refine ⟨entries.filter fun e => keep e.2, ?_, ?_, hrise.sublist List.filter_sublist,
    fun e he => hlast e (List.mem_filter.1 he).1⟩
  · rw [hrows, List.filter_map]
    exact congrArg _ (List.filter_congr fun e he => hp e.2 (List.mem_map_of_mem he) e.1)
  · rw [List.filter_map]
    rfl

end Keeps

/-! ### The newest first -/

/-- Whether an entry is at least as new as another, by the value in the column. -/
def newer (key : α → Int) (d e : Int × α) : Bool :=
  key e.2 < key d.2 || (key e.2 == key d.2 && e.1 ≤ d.1)

theorem newerOrSame_numbered {column : Nat} {key : α → Int}
    (hkey : ∀ x, (write x)[column]? = some (.integer (key x))) (d e : Int × α) :
    newerOrSame (column + 1) (numbered write d) (numbered write e) = newer key d e := by
  have hcolumn (e : Int × α) : (numbered write e)[column + 1]?.getD .null =
      .integer (key e.2) := by
    rw [numbered, List.getElem?_cons_succ, hkey, Option.getD_some]
  have hnumber (e : Int × α) : (numbered write e)[0]?.getD .null = .integer e.1 := rfl
  simp only [newerOrSame, hcolumn, hnumber, Cell.order, newer]
  rcases Int.lt_trichotomy (key e.2) (key d.2) with hlt | heq | hgt
  · have hcompare : compare (key e.2) (key d.2) = .lt := Int.compare_eq_lt.2 hlt
    simp [hcompare, hlt]
  · have hle : (compare e.1 d.1).isLE = decide (e.1 ≤ d.1) := by
      rw [Bool.eq_iff_iff, decide_eq_true_iff, Int.isLE_compare]
    simp [heq, hle]
  · have hcompare : compare (key e.2) (key d.2) = .gt := Int.compare_eq_gt.2 hgt
    simp [hcompare]
    omega

theorem newer_iff {key : α → Int} {d e : Int × α} :
    newer key d e = true ↔ key e.2 < key d.2 ∨ (key e.2 = key d.2 ∧ e.1 ≤ d.1) := by
  simp [newer]

theorem pairwise_mergeSort_newer (key : α → Int) (entries : List (Int × α)) :
    (entries.mergeSort (newer key)).Pairwise fun d e => newer key d e = true := by
  refine List.pairwise_mergeSort ?_ ?_ entries
  · intro c d e hcd hde
    rw [newer_iff] at *
    omega
  · intro d e
    rw [Bool.or_eq_true, newer_iff, newer_iff]
    omega

theorem newestFirst_numbered {column : Nat} {key : α → Int}
    (hkey : ∀ x, (write x)[column]? = some (.integer (key x))) (entries : List (Int × α)) :
    newestFirst (column + 1) (entries.map (numbered write)) =
      (entries.mergeSort (newer key)).map (numbered write) :=
  (List.map_mergeSort fun d _ e _ => (newerOrSame_numbered hkey d e).symm).symm

/-- The rows come in an order in which the values in the column fall. -/
theorem Keeps.exists_newestFirst (h : t.Keeps write xs) {column : Nat} {key : α → Int}
    (hkey : ∀ x, (write x)[column]? = some (.integer (key x))) :
    ∃ entries : List (Int × α), newestFirst (column + 1) t.rows = entries.map (numbered write) ∧
      (entries.map Prod.snd).Perm xs ∧
      (entries.map Prod.snd).Pairwise fun x y => key y ≤ key x := by
  obtain ⟨entries, hrows, rfl, -, -⟩ := h
  refine ⟨entries.mergeSort (newer key), ?_, (List.mergeSort_perm entries _).map _, ?_⟩
  · rw [hrows, newestFirst_numbered hkey]
  · refine List.pairwise_map.2 ((pairwise_mergeSort_newer key entries).imp ?_)
    intro d e hde
    rw [newer_iff] at hde
    omega

theorem newestFirst_eq_reverse (h : t.Keeps write xs) (column : Nat) (key : α → Int)
    (hkey : ∀ x, (write x)[column]? = some (.integer (key x)))
    (hsorted : xs.Pairwise fun x y => key x ≤ key y) :
    newestFirst (column + 1) t.rows = t.rows.reverse := by
  obtain ⟨entries, hrows, rfl, hrise, -⟩ := h
  have hdistinct : ∀ d ∈ entries, ∀ e ∈ entries, d.1 = e.1 → d = e := by
    have hnodup : (entries.map Prod.fst).Nodup :=
      List.pairwise_map.2 (hrise.imp Int.ne_of_lt)
    exact fun d hd e he heq => List.inj_on_of_nodup_map hnodup hd he heq
  have hfalling : entries.reverse.Pairwise fun d e => newer key d e = true := by
    rw [List.pairwise_reverse]
    refine (hrise.and (List.pairwise_map.1 hsorted)).imp ?_
    rintro d e ⟨hlt, hle⟩
    rw [newer_iff]
    omega
  have hmerge : entries.mergeSort (newer key) = entries.reverse := by
    refine List.Perm.eq_of_pairwise ?_ (pairwise_mergeSort_newer key entries) hfalling
      ((List.mergeSort_perm entries _).trans (List.reverse_perm entries).symm)
    intro d e hd he hde hed
    refine hdistinct d (List.mem_mergeSort.1 hd) e (List.mem_reverse.1 he) ?_
    rw [newer_iff] at hde hed
    omega
  rw [hrows, newestFirst_numbered hkey, hmerge, List.map_reverse]

/-! ### Limits -/

/-- A limit takes as many rows as it says, as long as there are fewer than 2 ^ 63. -/
theorem limited_eq_take (limit : UInt64) {rows : List Row} (h : rows.length < 2 ^ 63) :
    limited limit.toNat rows = rows.take limit.toNat := by
  have hlt := limit.toNat_lt
  have hsigned : limit.toInt64.toInt = if 2 * limit.toNat < 2 ^ 64 then (limit.toNat : Int)
      else limit.toNat - (2 ^ 64 : Nat) := BitVec.toInt_eq_toNat_cond _
  rw [limited, UInt64.ofNat_toNat, hsigned]
  by_cases hsmall : 2 * limit.toNat < 2 ^ 64
  · rw [if_pos hsmall, if_neg (by omega), Int.toNat_natCast]
  · rw [if_neg hsmall, if_pos (by omega), List.take_of_length_le (by omega)]

/-- The first of the newest values, read from their rows. -/
theorem mapM_take_reverse {read : Row → Except StoreError α} (h : t.Keeps write xs)
    (hread : ∀ x ∈ xs, ∀ n, read (n :: write x) = .ok x) (count : Nat) :
    (t.rows.reverse.take count).mapM read = .ok (xs.reverse.take count) := by
  obtain ⟨entries, hrows, rfl, -, -⟩ := h
  rw [hrows, ← List.map_reverse, ← List.map_reverse, ← List.map_take, ← List.map_take,
    List.mapM_map]
  refine Except.mapM_of_ok fun e he => hread e.2 ?_ _
  exact List.mem_map_of_mem (List.mem_reverse.1 (List.mem_of_mem_take he))

/-- The first rows of those sorted by a column are read as the first values sorted by it. -/
theorem Keeps.exists_sorted (h : t.Keeps write xs) (column : Nat) {key : α → Int}
    (hkey : ∀ x, (write x)[column]? = some (.integer (key x)))
    {read : Row → Except StoreError α} {reread : α → Except StoreError α}
    (hread : ∀ x ∈ xs, ∀ n, read (n :: write x) = reread x) (hfits : xs.length < 2 ^ 63) :
    ∃ sorted : List α, sorted.Perm xs ∧ (sorted.Pairwise fun x y => key y ≤ key x) ∧
      ∀ limit : UInt64,
        (limited limit.toNat (newestFirst (column + 1) t.rows)).mapM read =
          (sorted.take limit.toNat).mapM reread := by
  obtain ⟨entries, hrows, hperm, hfalling⟩ := h.exists_newestFirst hkey
  refine ⟨entries.map Prod.snd, hperm, hfalling, fun limit => ?_⟩
  have hlength : (entries.map (numbered write)).length < 2 ^ 63 := by
    rwa [List.length_map, ← List.length_map Prod.snd, hperm.length_eq]
  rw [hrows, limited_eq_take limit hlength, ← List.map_take, ← List.map_take, List.mapM_map,
    List.mapM_map]
  refine Except.mapM_congr fun e he => hread e.2 (hperm.mem_iff.1 ?_) _
  exact List.mem_map_of_mem (List.mem_of_mem_take he)

end Vigil.Table
