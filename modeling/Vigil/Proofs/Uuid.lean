import Mathlib.Algebra.Group.Nat.Defs
import Vigil.Proofs.Json.Tokens
import Vigil.Uuid

/-!
# Identifiers are read back

The text of an identifier is read as the identifier, and so no two identifiers have one
text.
-/

namespace Vigil.Uuid

/-- The hexadecimal digits of a number, of which there are `count`. -/
def nibbles (count n : Nat) : List Nat :=
  (List.range count).map fun i => (n >>> (4 * (count - 1 - i))) % 16

theorem nibbles_succ (count n : Nat) :
    nibbles (count + 1) n = nibbles count (n / 16) ++ [n % 16] := by
  have hshift : ∀ i ∈ List.range count, (n >>> (4 * (count + 1 - 1 - i))) % 16 =
      ((n / 16) >>> (4 * (count - 1 - i))) % 16 := by
    intro i hi
    have hlt := List.mem_range.1 hi
    have hplaces : 4 * (count + 1 - 1 - i) = 4 + 4 * (count - 1 - i) := by omega
    rw [hplaces, Nat.shiftRight_add, Nat.shiftRight_eq_div_pow n 4]
  rw [nibbles, List.range_succ, List.map_append, List.map_congr_left hshift]
  simp [nibbles]

theorem foldl_nibbles (count : Nat) {n : Nat} (h : n < 16 ^ count) :
    (nibbles count n).foldl (fun n d => n * 16 + d) 0 = n := by
  induction count generalizing n with
  | zero =>
      have hzero : n = 0 := by simpa using h
      rw [hzero]
      rfl
  | succ count ih =>
      have hlt : n / 16 < 16 ^ count := by
        rw [Nat.pow_succ] at h
        omega
      rw [nibbles_succ, List.foldl_append, ih hlt, List.foldl_cons, List.foldl_nil]
      omega

theorem mapM_hexDigit? {ns : List Nat} (h : ∀ n ∈ ns, n < 16) :
    (ns.map Nat.digitChar).mapM Json.Token.hexDigit? = some ns := by
  induction ns with
  | nil => rfl
  | cons n ns ih =>
      rw [List.map_cons, List.mapM_cons, Json.Token.hexDigit?_digitChar (h n List.mem_cons_self),
        ih fun m hm => h m (List.mem_cons_of_mem n hm)]
      rfl

theorem digits_eq (u : Uuid) : u.digits = (nibbles 32 u.bits.toNat).map Nat.digitChar := by
  rw [nibbles, List.map_map]
  rfl

theorem length_digits (u : Uuid) : u.digits.length = 32 := by simp [digits]

theorem ofDigits?_digits (u : Uuid) : ofDigits? u.digits = some u := by
  have hnibbles : ∀ n ∈ nibbles 32 u.bits.toNat, n < 16 := by
    intro n hn
    obtain ⟨i, -, rfl⟩ := List.mem_map.1 hn
    exact Nat.mod_lt _ (by decide)
  have hbits : u.bits.toNat < 16 ^ 32 := u.bits.isLt
  rw [ofDigits?, if_pos u.length_digits, digits_eq, mapM_hexDigit? hnibbles, Option.map_some,
    foldl_nibbles 32 hbits, ofNat, BitVec.ofNat_toNat, BitVec.setWidth_eq]

/-- Five groups of digits are read as the digits without the hyphens. -/
theorem ofGroups?_groups {a b c d e : List Char} (ha : a.length = 8) (hb : b.length = 4)
    (hc : c.length = 4) (hd : d.length = 4) (he : e.length = 12) :
    ofGroups? (a ++ '-' :: b ++ '-' :: c ++ '-' :: d ++ '-' :: e) =
      ofDigits? (a ++ b ++ c ++ d ++ e) := by
  simp [ofGroups?, List.getElem?_append, List.drop_append,
    List.drop_eq_nil_of_le, ha, hb, hc, hd, he]

theorem ofGroups?_chars (u : Uuid) : ofGroups? u.chars = some u := by
  have hlength := u.length_digits
  have hsplit (n k : Nat) :
      (u.digits.drop n).take k ++ u.digits.drop (n + k) = u.digits.drop n := by
    rw [← List.drop_drop, List.take_append_drop]
  have hgroups : u.digits.take 8 ++ (u.digits.drop 8).take 4 ++ (u.digits.drop 12).take 4 ++
      (u.digits.drop 16).take 4 ++ u.digits.drop 20 = u.digits := by
    simp only [List.append_assoc]
    rw [hsplit 16 4, hsplit 12 4, hsplit 8 4, List.take_append_drop]
  rw [chars, ofGroups?_groups (by simp [hlength]) (by simp [hlength]) (by simp [hlength])
    (by simp [hlength]) (by simp [hlength]), hgroups, ofDigits?_digits]

theorem length_chars (u : Uuid) : u.chars.length = 36 := by
  simp [chars, length_digits]

/-- An identifier starts with a hexadecimal digit. -/
theorem exists_chars_eq (u : Uuid) : ∃ c s, u.chars = c :: s ∧ c ≠ 'u' ∧ c ≠ '{' := by
  have hdigit : ∀ n < 16, Nat.digitChar n ≠ 'u' ∧ Nat.digitChar n ≠ '{' := by decide
  exact ⟨_, _, rfl, hdigit _ (Nat.mod_lt _ (by decide))⟩

/-- An identifier is read as it was written. -/
@[simp] theorem ofText?_text (u : Uuid) : ofText? u.text = some u := by
  obtain ⟨c, s, hchars, hu, hbrace⟩ := u.exists_chars_eq
  rw [ofText?, text, String.toList_ofList]
  split
  · next heq => exact absurd (List.cons.inj (hchars.symm.trans heq)).1 hu
  · next heq => exact absurd (List.cons.inj (hchars.symm.trans heq)).1 hbrace
  · rw [if_neg (by rw [length_chars]; decide), ofGroups?_chars]

theorem text_injective {u v : Uuid} (h : u.text = v.text) : u = v := by
  have hread := congrArg ofText? h
  rw [ofText?_text, ofText?_text] at hread
  exact Option.some.inj hread

end Vigil.Uuid
