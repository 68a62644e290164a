/-!
# Blank characters

`isBlank` is the White_Space property of Unicode, and `trim` drops blanks at
both ends of a text. Names, scripts and numeric texts are trimmed by it.
-/

namespace Vigil.Text

/-- The White_Space property of Unicode, as a finite union of ranges. -/
def isBlank (c : Char) : Bool :=
  let n := c.toNat
  (9 ≤ n && n ≤ 13) || n == 0x20 || n == 0x85 || n == 0xA0 || n == 0x1680 ||
    (0x2000 ≤ n && n ≤ 0x200A) || n == 0x2028 || n == 0x2029 || n == 0x202F ||
    n == 0x205F || n == 0x3000

/-- A text without the blanks at its start. -/
def trimStart (s : List Char) : List Char := s.dropWhile isBlank

/-- A text without the blanks at its end. -/
def trimEnd (s : List Char) : List Char := (s.reverse.dropWhile isBlank).reverse

/-- A text without the blanks at its two ends. -/
def trim (s : List Char) : List Char := trimEnd (trimStart s)

@[simp] theorem trimStart_nil : trimStart [] = [] := rfl

@[simp] theorem trimEnd_nil : trimEnd [] = [] := rfl

@[simp] theorem trim_nil : trim [] = [] := rfl

theorem trimStart_cons_of_not_blank {c : Char} (h : isBlank c = false) (s : List Char) :
    trimStart (c :: s) = c :: s := by
  simp [trimStart, h]

/-- Whether a text holds nothing but blanks. -/
def blank (s : String) : Bool := s.toList.all isBlank

end Vigil.Text
