import Vigil.Json.Token

/-!
# Identifiers

An identifier is a number of 128 bits. It is written as 32 hexadecimal digits in
five groups divided by hyphens. It is also read without hyphens, in braces, and
after `urn:uuid:`, with digits of any case.
-/

namespace Vigil

/-- The name of a node or an item: 128 bits. -/
structure Uuid where
  bits : BitVec 128
deriving DecidableEq, Repr, Hashable

namespace Uuid

instance : Ord Uuid := ⟨fun a b => compare a.bits b.bits⟩

theorem compare_def (a b : Uuid) : compare a b = compare a.bits b.bits := rfl

instance : Std.TransOrd Uuid where
  eq_swap := by
    intro a b
    rw [compare_def, compare_def]
    exact Std.OrientedOrd.eq_swap
  isLE_trans := by
    intro a b c
    rw [compare_def, compare_def, compare_def]
    exact Std.TransOrd.isLE_trans

instance : Std.LawfulEqOrd Uuid where
  compare_self := by
    intro a
    rw [compare_def]
    exact Std.ReflOrd.compare_self
  eq_of_compare := by
    intro a b h
    rw [compare_def] at h
    cases a; cases b
    exact congrArg Uuid.mk (Std.LawfulEqOrd.eq_of_compare h)

theorem compare_beq_eq (a b : Uuid) : (compare a b == .eq) = decide (a = b) := by
  rw [Bool.eq_iff_iff]
  simp

/-- The identifier whose bits are all zero. -/
def nil : Uuid := ⟨0⟩

instance : Inhabited Uuid := ⟨nil⟩

def ofNat (n : Nat) : Uuid := ⟨BitVec.ofNat 128 n⟩

/-- The random identifier that octets make: six of the bits say that it is one. -/
def ofRandom (octets : List UInt8) : Uuid :=
  let bits := (ofNat (octets.foldl (fun n b => n * 256 + b.toNat) 0)).bits
  ⟨bits &&& ~~~(0xF#128 <<< 76 ||| 0x3#128 <<< 62) ||| 0x4#128 <<< 76 ||| 0x2#128 <<< 62⟩

/-- The hexadecimal digits, most significant first. -/
def digits (u : Uuid) : List Char :=
  (List.range 32).map fun i => Nat.digitChar ((u.bits.toNat >>> (4 * (31 - i))) % 16)

def chars (u : Uuid) : List Char :=
  let d := u.digits
  d.take 8 ++ '-' :: (d.drop 8).take 4 ++ '-' :: (d.drop 12).take 4 ++
    '-' :: (d.drop 16).take 4 ++ '-' :: d.drop 20

/-- The text of an identifier. -/
def text (u : Uuid) : String := String.ofList u.chars

/-- The identifier that 32 hexadecimal digits write. -/
def ofDigits? (s : List Char) : Option Uuid :=
  if s.length = 32 then
    (s.mapM Json.Token.hexDigit?).map fun ds => ofNat (ds.foldl (fun n d => n * 16 + d) 0)
  else none

/-- The identifier that five groups of digits write. -/
def ofGroups? (s : List Char) : Option Uuid :=
  if s.length = 36 ∧ [8, 13, 18, 23].all (fun i => s[i]? == some '-') then
    ofDigits? (s.take 8 ++ (s.drop 9).take 4 ++ (s.drop 14).take 4 ++ (s.drop 19).take 4 ++
      s.drop 24)
  else none

/-- The identifier that a text writes, if it writes one. -/
def ofText? (t : String) : Option Uuid :=
  match t.toList with
  | 'u' :: 'r' :: 'n' :: ':' :: 'u' :: 'u' :: 'i' :: 'd' :: ':' :: s => ofGroups? s
  | '{' :: s => if s.getLast? = some '}' then ofGroups? s.dropLast else none
  | s => if s.length = 32 then ofDigits? s else ofGroups? s

end Uuid

end Vigil
