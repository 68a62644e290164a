/-!
# Punycode

A label with characters beyond ASCII is written in ASCII: first its characters
that are in ASCII, then a hyphen, then digits that tell which characters stand
between them, in the order of the characters. Digits form numbers of variable
length, whose thresholds adapt to the sizes of the numbers before.
-/

namespace Vigil.Domain.Punycode

def digitChar (d : Nat) : Char :=
  if d < 26 then Char.ofNat ('a'.toNat + d) else Char.ofNat ('0'.toNat + (d - 26))

def digit? (c : Char) : Option Nat :=
  if 'a' ≤ c ∧ c ≤ 'z' then some (c.toNat - 'a'.toNat)
  else if 'A' ≤ c ∧ c ≤ 'Z' then some (c.toNat - 'A'.toNat)
  else if '0' ≤ c ∧ c ≤ '9' then some (c.toNat - '0'.toNat + 26)
  else none

/-- The threshold of the digit at position `k`. -/
def threshold (k bias : Nat) : Nat := min 26 (max 1 (k - bias))

theorem threshold_pos (k bias : Nat) : 1 ≤ threshold k bias := by
  simp only [threshold]
  omega

/-- How often `delta` is divided, and what is left. -/
def scale (delta k : Nat) : Nat × Nat :=
  if 455 < delta then scale (delta / 35) (k + 36) else (delta, k)
termination_by delta
decreasing_by omega

/-- The bias after a number; `count` characters are known by then. -/
def adapt (delta count : Nat) (first : Bool) : Nat :=
  let delta := if first then delta / 700 else delta / 2
  let (delta, k) := scale (delta + delta / count) 0
  k + 36 * delta / (delta + 38)

/-- The digits of a number. -/
def numberDigits (bias k n : Nat) : List Char :=
  let t := threshold k bias
  if n < t then [digitChar n]
  else digitChar (t + (n - t) % (36 - t)) :: numberDigits bias (k + 36) ((n - t) / (36 - t))
termination_by n
decreasing_by
  have := threshold_pos k bias
  exact Nat.lt_of_le_of_lt (Nat.div_le_self _ _) (by omega)

/-- The number at the front of a text, added to `i` with the weight `w`, and the
rest. Numbers beyond 32 bits are refused. -/
def readNumber? (bias k w i : Nat) : List Char → Option (Nat × List Char)
  | [] => none
  | c :: rest =>
    match digit? c with
    | none => none
    | some d =>
      let j := i + d * w
      let t := threshold k bias
      if UInt32.size ≤ j then none
      else if d < t then some (j, rest)
      else readNumber? bias (k + 36) (w * (36 - t)) j rest

theorem length_lt_of_readNumber? {bias k w i j : Nat} {s rest : List Char}
    (h : readNumber? bias k w i s = some (j, rest)) : rest.length < s.length := by
  induction s generalizing k w i with
  | nil => simp [readNumber?] at h
  | cons c s ih =>
    unfold readNumber? at h
    split at h
    · simp at h
    · simp only at h
      split at h
      · simp at h
      · split at h
        · simp only [Option.some.injEq, Prod.mk.injEq] at h
          simp [h.2]
        · have := ih h
          simp only [List.length_cons]
          omega

/-- Whether a number is the one of a character. -/
def isScalar (n : Nat) : Bool := n < 0xD800 || (0xE000 ≤ n && n < 0x110000)

/-- Inserts the characters that the digits tell of. The last one was the character
`n` before the place `i`; `first` says that there was none yet. -/
def insertAll? (first : Bool) (bias n i : Nat) (known : List Char) (s : List Char) :
    Option (List Char) :=
  match s with
  | [] => some known
  | c :: rest =>
    match h : readNumber? bias 36 1 i (c :: rest) with
    | none => none
    | some (j, tail) =>
      let count := known.length + 1
      let m := n + j / count
      let place := j % count
      if isScalar m then
        insertAll? false (adapt (j - i) count first) m (place + 1)
          (known.insertIdx place (Char.ofNat m)) tail
      else none
termination_by s.length
decreasing_by exact length_lt_of_readNumber? h

/-- The label that a text writes. -/
def decode? (s : List Char) : Option (List Char) :=
  let digits := (s.reverse.takeWhile (· != '-')).reverse
  let known := s.take (s.length - digits.length - 1)
  if known.isEmpty then insertAll? true 72 128 0 [] s else insertAll? true 72 128 0 known digits

/-- How far a label is written: what stands there, the distance from the last
character that was written, and how many are written. -/
structure Progress where
  out : List Char
  delta : Nat
  bias : Nat
  written : Nat

namespace Progress

/-- Passes a character while the occurrences of the character `n` are written. -/
def pass (basic n : Nat) (p : Progress) (c : Char) : Progress :=
  if c.toNat < n then { p with delta := p.delta + 1 }
  else if c.toNat = n then
    { out := p.out ++ numberDigits p.bias 36 p.delta
      delta := 0
      bias := adapt p.delta (p.written + 1) (p.written == basic)
      written := p.written + 1 }
  else p

/-- Writes the characters beyond ASCII, the numbers of which are in order. The
ones before `n` are written. -/
def writeAll (label : List Char) (basic : Nat) : Nat → Progress → List Nat → Progress
  | _, p, [] => p
  | n, p, m :: ms =>
    let p := { p with delta := p.delta + (m - n) * (p.written + 1) }
    let p := label.foldl (pass basic m) p
    writeAll label basic (m + 1) { p with delta := p.delta + 1 } ms

end Progress

/-- Adds a number to others that are in order and all different. -/
def insertNew (n : Nat) : List Nat → List Nat
  | [] => [n]
  | m :: ms => if n < m then n :: m :: ms else if n = m then m :: ms else m :: insertNew n ms

/-- The text that writes a label. -/
def encode (label : List Char) : List Char :=
  let basic := label.filter (·.toNat < 128)
  let others := ((label.map Char.toNat).filter (128 ≤ ·)).foldr insertNew []
  let start := if basic.isEmpty then [] else basic ++ ['-']
  (Progress.writeAll label basic.length 128 ⟨start, 0, 72, basic.length⟩ others).out

end Vigil.Domain.Punycode
