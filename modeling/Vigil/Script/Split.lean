/-!
# Splitting outside of quotes

Scripts join clauses by a doubled mark, `||` or `&&`. `splitDoubled` cuts a text
at the doubled marks that stand outside of double quotes, from the left. Each
piece starts outside of quotes.
-/

namespace Vigil.Script

/-- Puts a character in front of the first of several pieces. -/
def prepend (c : Char) : List (List Char) → List (List Char)
  | [] => [[c]]
  | piece :: pieces => (c :: piece) :: pieces

/-- The pieces of a text that starts inside of quotes if `inQuotes` is true. -/
def splitFrom (mark : Char) (inQuotes : Bool) : List Char → List (List Char)
  | [] => [[]]
  | [c] => [[c]]
  | c :: d :: rest =>
    if c = '"' then prepend c (splitFrom mark (!inQuotes) (d :: rest))
    else if !inQuotes ∧ c = mark ∧ d = mark then [] :: splitFrom mark false rest
    else prepend c (splitFrom mark inQuotes (d :: rest))

/-- The pieces of a text between the doubled marks outside of quotes. -/
def splitDoubled (mark : Char) (s : List Char) : List (List Char) := splitFrom mark false s

theorem prepend_ne_nil (c : Char) (pieces : List (List Char)) : prepend c pieces ≠ [] := by
  cases pieces <;> simp [prepend]

theorem splitFrom_ne_nil (mark : Char) (inQuotes : Bool) (s : List Char) :
    splitFrom mark inQuotes s ≠ [] := by
  fun_cases splitFrom mark inQuotes s <;> simp [prepend_ne_nil]

end Vigil.Script

