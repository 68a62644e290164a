/-!
# Base 64

Octets are written in digits of six bits, four digits for three octets. A last
group of one or two octets is filled up with zeros, and the digits that hold
nothing else are written as equals signs.
-/

namespace Vigil.Text.Base64

/-- The digit of a number below 64. -/
def digit (n : Nat) : Char :=
  if n < 26 then Char.ofNat ('A'.toNat + n)
  else if n < 52 then Char.ofNat ('a'.toNat + (n - 26))
  else if n < 62 then Char.ofNat ('0'.toNat + (n - 52))
  else if n = 62 then '+' else '/'

/-- The first digits of the number that three octets make up. -/
def group (count : Nat) (a b c : UInt8) : List Char :=
  let n := a.toNat * 65536 + b.toNat * 256 + c.toNat
  ([n / 262144, n / 4096 % 64, n / 64 % 64, n % 64].take count).map digit

def encode : List UInt8 → List Char
  | [] => []
  | [a] => group 2 a 0 0 ++ ['=', '=']
  | [a, b] => group 3 a b 0 ++ ['=']
  | a :: b :: c :: rest => group 4 a b c ++ encode rest

example : encode [0x66, 0x6F, 0x6F, 0x62] = ['Z', 'm', '9', 'v', 'Y', 'g', '=', '='] := by decide

end Vigil.Text.Base64
