import Vigil.Url.Percent

/-!
# Addresses of four octets

A host that ends in a number is an IPv4 address. Its text has up to four parts
between dots, each in decimal, octal or hexadecimal digits; the last part fills
all octets that the others leave.
-/

namespace Vigil.Url

/-- An IPv4 address. -/
abbrev Ipv4 := BitVec 32

namespace Ipv4

/-- The value of digits in a base, if they are digits. -/
def digits? (base : Nat) (s : List Char) : Option Nat :=
  s.foldlM (fun n c => do
    let d ← hexValue? c
    if d < base then some (n * base + d) else none) 0

/-- The number that a part writes: hexadecimal after `0x`, octal after another
zero, decimal otherwise. -/
def part? : List Char → Option Nat
  | [] => none
  | '0' :: 'x' :: s => digits? 16 s
  | '0' :: 'X' :: s => digits? 16 s
  | '0' :: c :: s => digits? 8 (c :: s)
  | s => digits? 10 s

/-- The parts of a text between dots, without an empty one at the end. -/
def parts (s : List Char) : List (List Char) :=
  let ps := s.splitOn '.'
  if ps.getLast? = some [] then ps.dropLast else ps

/-- Whether the last part of a domain is a number, or has only digits. -/
def endsInNumber (s : List Char) : Bool :=
  let ps := s.splitOn '.'
  let last := if ps.getLast? = some [] then ps.dropLast.getLast? else ps.getLast?
  match last with
  | none => false
  | some p => (!p.isEmpty && p.all fun c => '0' ≤ c ∧ c ≤ '9') || (part? p).isSome

/-- The address that numbers make up: all but the last are octets, the last
fills the rest. -/
def ofNumbers? (ns : List Nat) : Option Ipv4 :=
  match ns.getLast? with
  | none => none
  | some last =>
    let front := ns.dropLast
    if ns.length ≤ 4 ∧ front.all (· < 256) ∧ last < Nat.pow 256 (5 - ns.length) then
      some (.ofNat 32 (front.foldl (fun a n => a * 256 + n) 0 * Nat.pow 256 (5 - ns.length) + last))
    else none

/-- The address that a text writes. -/
def ofText? (s : List Char) : Option Ipv4 := do
  ofNumbers? (← (parts s).mapM part?)

/-- The octet at a place, the first one being the highest. -/
def octet (a : Ipv4) (i : Nat) : Nat := (a.toNat >>> (8 * (3 - i))) % 256

/-- Four decimal numbers between dots. -/
def text (a : Ipv4) : String :=
  ".".intercalate ((List.range 4).map fun i => toString (a.octet i))

end Ipv4

end Vigil.Url
