import Vigil.Script.Value

/-!
# What comparison signs say

A comparison of a script goes by the order of its two values, and a sign holds or not of the order
that was found. `Comparison.meaning` says outright what each sign says of each two kinds of values:
numbers are compared as doubles are, texts by their characters, and truth values are equal or not.
A text that writes a number stands for it beside a number. All else is a mismatch, and so is a
comparison with a number that is undefined.
-/

namespace Vigil.Script

open Float.Model (UnpackedFloat)

/-! ### The order of doubles -/

section Doubles

/-- The order of two doubles; there is none if one of them is undefined. -/
def orderDoubles (x y : Float) : Option Ordering := x.toModel.compare y.toModel

theorem compare_unpacked_swap (a b : UnpackedFloat) :
    b.compare a = (a.compare b).map Ordering.swap := by
  have hparts (m n : Nat) (d e : Int) :
      (compare e d).then (compare n m) = ((compare d e).then (compare m n)).swap := by
    rw [Ordering.swap_then, ← Std.OrientedCmp.eq_swap, ← Std.OrientedCmp.eq_swap]
  cases a with
  | notANumber => cases b <;> rfl
  | infinity s => cases b with
    | infinity t => cases s <;> cases t <;> rfl
    | _ => cases s <;> rfl
  | zero s => cases b with
    | infinity t => cases t <;> rfl
    | finite t n e hn => cases t <;> rfl
    | _ => rfl
  | finite s m d hm => cases b with
    | infinity t => cases s <;> cases t <;> rfl
    | finite t n e hn =>
        cases s <;> cases t
        · exact congrArg (fun o => some (Ordering.swap o)) (hparts m n d e)
        · rfl
        · rfl
        · exact congrArg some (hparts m n d e)
    | _ => cases s <;> rfl

theorem isSome_compare_unpacked (a b : UnpackedFloat) :
    (a.compare b).isSome = !(a.isNaN || b.isNaN) := by
  cases a with
  | notANumber => cases b <;> rfl
  | infinity s => cases b <;> cases s <;> rfl
  | zero s => cases b with
    | infinity t => cases t <;> rfl
    | finite t n e hn => cases t <;> rfl
    | _ => rfl
  | finite s m d hm => cases b with
    | infinity t => cases s <;> cases t <;> rfl
    | finite t n e hn => cases s <;> cases t <;> rfl
    | _ => cases s <;> rfl

variable {x y : Float}

theorem orderDoubles_swap (x y : Float) : orderDoubles y x = (orderDoubles x y).map .swap :=
  compare_unpacked_swap _ _

theorem orderDoubles_eq_none_iff : orderDoubles x y = none ↔ (x.isNaN || y.isNaN) = true := by
  have hsome : (orderDoubles x y).isSome = !(x.isNaN || y.isNaN) := isSome_compare_unpacked _ _
  rw [← Option.not_isSome_iff_eq_none, hsome, Bool.not_eq_true', Bool.not_eq_false]

theorem lt_iff_orderDoubles : x < y ↔ orderDoubles x y = some .lt := by
  show decide (x.toModel < y.toModel) = true ↔ _
  rw [decide_eq_true_iff]
  exact beq_iff_eq

theorem gt_iff_orderDoubles : y < x ↔ orderDoubles x y = some .gt := by
  rw [lt_iff_orderDoubles, orderDoubles_swap]
  cases h : orderDoubles x y with
  | none => simp
  | some o => cases o <;> simp

theorem beq_iff_orderDoubles : (x == y) = true ↔ orderDoubles x y = some .eq :=
  beq_iff_eq (a := orderDoubles x y)

theorem le_iff_orderDoubles : x ≤ y ↔ (orderDoubles x y).any Ordering.isLE = true := by
  show decide (x.toModel ≤ y.toModel) = true ↔ _
  rw [decide_eq_true_iff]
  exact Iff.rfl

theorem ge_iff_orderDoubles : y ≤ x ↔ (orderDoubles x y).any Ordering.isGE = true := by
  rw [le_iff_orderDoubles, orderDoubles_swap]
  cases h : orderDoubles x y with
  | none => simp
  | some o => cases o <;> simp

theorem orderNumbers_eq (x y : Float) : Value.orderNumbers x y = orderDoubles x y := by
  have hlt := lt_iff_orderDoubles (x := x) (y := y)
  have hgt := gt_iff_orderDoubles (x := x) (y := y)
  have hbeq := beq_iff_orderDoubles (x := x) (y := y)
  unfold Value.orderNumbers
  cases h : orderDoubles x y with
  | none =>
      rw [h] at hlt hgt hbeq
      simp [hlt, hgt, hbeq]
  | some o =>
      rw [h] at hlt hgt hbeq
      cases o <;> simp [hlt, hgt, hbeq]

end Doubles

/-! ### Signs between values -/

namespace Comparison

/-- What a sign says of two numbers, both of them defined. -/
def ofNumbers : Comparison → Float → Float → Bool
  | eq, x, y => x == y
  | ne, x, y => x != y
  | lt, x, y => x < y
  | le, x, y => x ≤ y
  | gt, x, y => y < x
  | ge, x, y => y ≤ x

/-- What a sign says of two texts, in the order of their characters. -/
def ofTexts : Comparison → String → String → Bool
  | eq, s, t => s = t
  | ne, s, t => s ≠ t
  | lt, s, t => s < t
  | le, s, t => s ≤ t
  | gt, s, t => t < s
  | ge, s, t => t ≤ s

/-- What a sign says of the numbers that two values stand for. The values are of kinds with these
names. -/
def ofNumbers? (op : Comparison) (left right : String) (x? y? : Option Float) :
    Except ScriptError Bool :=
  match x?, y? with
  | some x, some y =>
    if x.isNaN || y.isNaN then .error (.typeMismatch left right) else .ok (op.ofNumbers x y)
  | _, _ => .error (.typeMismatch left right)

/-- What a sign says of two values. -/
def meaning (op : Comparison) : Value → Value → Except ScriptError Bool
  | .number x, .number y => op.ofNumbers? "number" "number" x y
  | .number x, .text t =>
    op.ofNumbers? "number" "string" x (Decimal.readFloat? (Text.trim t.toList))
  | .text s, .number y =>
    op.ofNumbers? "string" "number" (Decimal.readFloat? (Text.trim s.toList)) y
  | .text s, .text t => .ok (op.ofTexts s t)
  | .bool a, .bool b =>
    match op with
    | eq => .ok (a == b)
    | ne => .ok (a != b)
    | _ => .error (.typeMismatch "bool" "bool")
  | .bool _, .number _ => .error (.typeMismatch "bool" "number")
  | .bool _, .text _ => .error (.typeMismatch "bool" "string")
  | .number _, .bool _ => .error (.typeMismatch "number" "bool")
  | .text _, .bool _ => .error (.typeMismatch "string" "bool")

theorem ofNumbers_of_order {x y : Float} {o : Ordering} (h : orderDoubles x y = some o)
    (op : Comparison) : op.ofNumbers x y = op.holds o := by
  have hbeq : (x == y) = o.isEq := by
    rw [Bool.eq_iff_iff, beq_iff_orderDoubles, h]
    cases o <;> simp
  cases op with
  | eq => exact hbeq
  | ne =>
      rw [ofNumbers, bne, hbeq]
      cases o <;> rfl
  | lt =>
      simp only [ofNumbers, lt_iff_orderDoubles, h, holds]
      cases o <;> rfl
  | le =>
      simp only [ofNumbers, le_iff_orderDoubles, h, holds]
      cases o <;> rfl
  | gt =>
      simp only [ofNumbers, gt_iff_orderDoubles, h, holds]
      cases o <;> rfl
  | ge =>
      simp only [ofNumbers, ge_iff_orderDoubles, h, holds]
      cases o <;> rfl

theorem ofTexts_eq (op : Comparison) (s t : String) : op.ofTexts s t = op.holds (compare s t) := by
  have hcompare : compare s t = if s < t then .lt else if s = t then .eq else .gt := rfl
  by_cases hlt : s < t
  · have hle := String.not_lt.1 (String.lt_asymm hlt)
    rw [hcompare, if_pos hlt]
    cases op <;> simp [ofTexts, holds, hlt, hle, String.ne_of_lt hlt, String.lt_asymm hlt]
  · by_cases heq : s = t
    · subst heq
      rw [hcompare, if_neg hlt, if_pos rfl]
      cases op <;> simp [ofTexts, holds]
    · have hle := String.not_lt.1 hlt
      have hgt : t < s := String.not_le.1 fun h => heq (String.le_antisymm h hle)
      rw [hcompare, if_neg hlt, if_neg heq]
      cases op <;> simp [ofTexts, holds, hlt, heq, hle, hgt]

theorem ofNumbers?_eq (op : Comparison) (left right : String) (x? y? : Option Float) :
    op.ofNumbers? left right x? y? =
      match x?.bind fun x => y?.bind fun y => Value.orderNumbers x y with
      | some o => .ok (op.holds o)
      | none => .error (.typeMismatch left right) := by
  cases x? with
  | none => rfl
  | some x =>
      cases y? with
      | none => rfl
      | some y =>
          rw [ofNumbers?, Option.bind_some, Option.bind_some, orderNumbers_eq]
          cases h : orderDoubles x y with
          | none => rw [if_pos (orderDoubles_eq_none_iff.1 h)]
          | some o =>
              rw [if_neg fun hnan => ?_, ofNumbers_of_order h]
              cases h.symm.trans (orderDoubles_eq_none_iff.2 hnan)

/-- The order that a sign goes by makes it say what it means. -/
theorem apply_eq (op : Comparison) (l r : Value) : op.apply l r = op.meaning l r := by
  cases l with
  | number x => cases r with
    | number y => exact (op.ofNumbers?_eq _ _ (some x) (some y)).symm
    | text t =>
        rw [meaning, ofNumbers?_eq]
        rfl
    | bool b => rfl
  | text s => cases r with
    | number y =>
        rw [meaning, ofNumbers?_eq]
        rfl
    | text t => exact congrArg Except.ok (op.ofTexts_eq s t).symm
    | bool b => rfl
  | bool a => cases r with
    | bool b => cases op <;> cases a <;> cases b <;> rfl
    | _ => rfl

end Comparison

end Vigil.Script
