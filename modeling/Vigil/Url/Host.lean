import Vigil.Domain.Ascii
import Vigil.Url.Ipv4
import Vigil.Url.Ipv6

/-!
# Hosts of URLs
-/

namespace Vigil.Url

/-- Why a text is no URL. -/
inductive Error where
  | noScheme
  | emptyHost
  | badDomain
  | badIpv4
  | badIpv6
  | badPort
  | badCharacter
deriving DecidableEq, Repr

def Error.message : Error → String
  | noScheme => "relative URL without a base"
  | emptyHost => "empty host"
  | badDomain => "invalid international domain name"
  | badIpv4 => "invalid IPv4 address"
  | badIpv6 => "invalid IPv6 address"
  | badPort => "invalid port number"
  | badCharacter => "invalid domain character"

/-- A host that is looked up or addressed. -/
inductive Host where
  | domain (name : String)
  | ipv4 (a : Ipv4)
  | ipv6 (a : Ipv6)

namespace Host

def text : Host → String
  | domain name => name
  | ipv4 a => a.text
  | ipv6 a => "[" ++ a.text ++ "]"

/-- The IPv6 address that stands in brackets. The text starts with the opening
bracket. -/
def bracketed (s : List Char) : Except Error Host :=
  if s.getLast? = some ']' then
    match Ipv6.ofText? (s.drop 1).dropLast with
    | some a => .ok (ipv6 a)
    | none => .error .badIpv6
  else .error .badIpv6

/-- Reads a host that is a domain or an address. -/
def read (s : List Char) : Except Error Host :=
  if s.head? = some '[' then bracketed s
  else
    let name := (String.fromUTF8? ⟨(decode s).toArray⟩).bind fun t => Domain.toAscii? t.toList
    match name with
    | none => .error .badDomain
    | some [] => .error .emptyHost
    | some name =>
      if Ipv4.endsInNumber name then
        match Ipv4.ofText? name with
        | some a => .ok (ipv4 a)
        | none => .error .badIpv4
      else .ok (domain (String.ofList name))

/-- The characters that no host of a foreign scheme has. -/
def isForbidden (c : Char) : Bool :=
  ['\x00', '\t', '\n', '\r', ' ', '#', '/', ':', '<', '>', '?', '@', '[', '\\', ']', '^',
    '|'].contains c

/-- Reads a host whose meaning is not known. -/
def readOpaque (s : List Char) : Except Error Host :=
  if s.head? = some '[' then bracketed s
  else if s.any isForbidden then .error .badCharacter
  else .ok (domain (String.ofList (encode .controls s)))

end Host

end Vigil.Url
