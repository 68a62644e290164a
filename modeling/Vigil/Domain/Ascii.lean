import Vigil.Domain.Label

/-!
# Domains in ASCII

A domain name is mapped, brought into normal form and cut into labels. Each
label is checked, and written in ASCII.
-/

namespace Vigil.Domain

open Unicode

/-- The characters of ASCII that no domain name has. -/
def isDenied (c : Char) : Bool :=
  c.toNat ≤ 0x20 || c.toNat == 0x7F ||
    ['%', '#', '/', ':', '<', '>', '?', '@', '[', '\\', ']', '^', '|'].contains c

/-- A name with each character replaced by those that stand for it. -/
def mapAll? (s : List Char) : Option (List Char) := (s.mapM mapped?).map List.flatten

/-- A domain name in ASCII; `none` if it is not valid. -/
def toAscii? (s : List Char) : Option (List Char) := do
  let mapped := normalForm (← mapAll? s)
  if mapped.any isDenied then none
  else
    let labels ← (mapped.splitOn '.').mapM plainLabel?
    if labels.any turns && !labels.all keepsDirection then none
    else some (['.'].intercalate (labels.map asciiLabel))

end Vigil.Domain
