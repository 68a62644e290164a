/-!
# Percent-encoding

A text inside of a URL writes the characters that would be misread there as the
octets of their UTF-8 form, each as a percent sign and two hexadecimal digits.
Which characters these are depends on the part of the URL. Characters beyond
ASCII are always encoded. A percent sign itself is left alone, so what has been
encoded already stays as it is.
-/

namespace Vigil.Url

/-- Characters of ASCII that are encoded in some part of a URL. -/
abbrev EncodeSet := Char → Bool

namespace EncodeSet

/-- The control characters, which are encoded in every part. -/
def controls : EncodeSet := fun c => c.toNat < 0x20 || c.toNat == 0x7F

/-- A set with more characters. -/
def plus (s : EncodeSet) (more : List Char) : EncodeSet := fun c => s c || more.contains c

def fragment : EncodeSet := controls.plus [' ', '"', '<', '>', '\x60']

def path : EncodeSet := fragment.plus ['#', '?', '\x7b', '\x7d']

def userInfo : EncodeSet := path.plus ['/', ':', ';', '=', '@', '[', '\\', ']', '^', '|']

def query : EncodeSet := controls.plus [' ', '"', '#', '<', '>', '\'']

end EncodeSet

/-- The digit of a number below sixteen. -/
def hexDigit (upper : Bool) (n : Nat) : Char :=
  if n < 10 then Char.ofNat ('0'.toNat + n)
  else Char.ofNat ((if upper then 'A' else 'a').toNat + (n - 10))

/-- The value of a hexadecimal digit. -/
def hexValue? (c : Char) : Option Nat :=
  if '0' ≤ c ∧ c ≤ '9' then some (c.toNat - '0'.toNat)
  else if 'a' ≤ c ∧ c ≤ 'f' then some (c.toNat - 'a'.toNat + 10)
  else if 'A' ≤ c ∧ c ≤ 'F' then some (c.toNat - 'A'.toNat + 10)
  else none

/-- The escape of an octet. -/
def escapeOctet (b : UInt8) : List Char :=
  ['%', hexDigit true (b.toNat / 16), hexDigit true (b.toNat % 16)]

/-- The octets of a text in UTF-8. -/
def octets (s : List Char) : List UInt8 := (String.ofList s).toUTF8.toList

/-- A text with the characters of a set escaped. -/
def encode (set : EncodeSet) (s : List Char) : List Char :=
  s.flatMap fun c =>
    if c.toNat < 0x80 ∧ set c = false then [c] else (octets [c]).flatMap escapeOctet

/-- The octets that a text with escapes stands for. A percent sign that two
digits do not follow stands for itself. -/
def decode : List Char → List UInt8
  | [] => []
  | '%' :: c :: d :: rest =>
    match hexValue? c, hexValue? d with
    | some x, some y => .ofNat (16 * x + y) :: decode rest
    | _, _ => 0x25 :: decode (c :: d :: rest)
  | c :: rest => octets [c] ++ decode rest

@[simp] theorem encode_nil (set : EncodeSet) : encode set [] = [] := rfl

end Vigil.Url
