import Vigil.Url.Percent

/-!
# Addresses of eight pieces

An IPv6 address is written as pieces of up to four hexadecimal digits between
colons. A double colon, at most one, stands for one or more pieces that are
zero, and an IPv4 address may stand for the last two pieces.
-/

namespace Vigil.Url

/-- An IPv6 address, by its pieces of sixteen bits. -/
structure Ipv6 where
  pieces : List Nat
  length_eq : pieces.length = 8
deriving DecidableEq, Repr

namespace Ipv6

/-- A text cut at its first double colon. -/
def cutDouble : List Char → Option (List Char × List Char)
  | [] => none
  | ':' :: ':' :: rest => some ([], rest)
  | c :: rest => (cutDouble rest).map fun (a, b) => (c :: a, b)

/-- The value of a piece of one to four digits. -/
def piece? (s : List Char) : Option Nat :=
  if 1 ≤ s.length ∧ s.length ≤ 4 then
    s.foldlM (fun n c => return n * 16 + (← hexValue? c)) 0
  else none

/-- A number below 256 in decimal digits without a zero in front. -/
def octet? (s : List Char) : Option Nat :=
  if s.isEmpty ∨ s.length > 3 ∨ (s.length > 1 ∧ s.head? = some '0') then none
  else do
    let n ← s.foldlM (fun n c =>
      if '0' ≤ c ∧ c ≤ '9' then some (n * 10 + (c.toNat - '0'.toNat)) else none) 0
    if n < 256 then some n else none

/-- The two pieces that an IPv4 address with its four octets stands for. -/
def dotted? (s : List Char) : Option (List Nat) := do
  match ← (s.splitOn '.').mapM octet? with
  | [a, b, c, d] => some [a * 256 + b, c * 256 + d]
  | _ => none

/-- The pieces between single colons. With `last` the final one may be dotted. -/
def pieces? (last : Bool) (s : List Char) : Option (List Nat) :=
  if s.isEmpty then some []
  else
    let groups := s.splitOn ':'
    match groups.getLast? with
    | none => none
    | some final => do
      let front ← groups.dropLast.mapM piece?
      if last ∧ final.contains '.' then return front ++ (← dotted? final)
      else return front ++ [← piece? final]

/-- The address that a text writes. -/
def ofText? (s : List Char) : Option Ipv6 :=
  match cutDouble s with
  | none => do
    let ps ← pieces? true s
    if h : ps.length = 8 then some ⟨ps, h⟩ else none
  | some (a, b) => do
    let front ← pieces? false a
    let back ← pieces? true b
    let ps := front ++ List.replicate (8 - front.length - back.length) 0 ++ back
    if h : ps.length = 8 ∧ front.length + back.length < 8 then some ⟨ps, h.1⟩ else none

/-- A number in hexadecimal digits. -/
def hex (n : Nat) : String := String.ofList (Nat.toDigits 16 n)

/-- The zeros at the front of a list. -/
def zeros (ps : List Nat) : Nat := (ps.takeWhile (· == 0)).length

/-- Where the longest run of zeros starts, the first one of several, and how long
it is. -/
def longestRun (ps : List Nat) : Nat × Nat :=
  (List.range ps.length).foldl (fun best i =>
    let n := zeros (ps.drop i)
    if best.2 < n then (i, n) else best) (0, 0)

/-- The text of an address: the longest run of two or more zeros becomes a double
colon. -/
def text (a : Ipv6) : String :=
  let (start, n) := longestRun a.pieces
  let join (ps : List Nat) : String := ":".intercalate (ps.map hex)
  if n < 2 then join a.pieces
  else join (a.pieces.take start) ++ "::" ++ join (a.pieces.drop (start + n))

end Ipv6

end Vigil.Url
