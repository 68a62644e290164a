import Vigil.Url.Reader
import Vigil.Decimal.Whole

/-!
# Targets of probes

A web probe is aimed at a URL, a connection probe at a host and a port. A host
and a port are written with the last colon between them, so that the host may
hold colons itself.
-/

namespace Vigil

/-- Why something cannot be aimed at. -/
inductive TargetError where
  | url (e : Url.Error)
  | scheme (name : String)
  | noColon
  | emptyHost
  | badPort
  | zeroPort
deriving DecidableEq, Repr

def TargetError.message : TargetError → String
  | url e => "Invalid URL: " ++ e.message
  | scheme name => "Invalid scheme for HTTP probe: " ++ name
  | noColon => "TCP target must be in format host:port"
  | emptyHost => "TCP target has an empty host"
  | badPort => "Invalid port number"
  | zeroPort => "Port 0 is not valid"

namespace Target

/-- Reads the target of a web probe. -/
def web (text : String) : Except TargetError Url :=
  match Url.read text with
  | .error e => .error (.url e)
  | .ok (.foreign scheme) => .error (.scheme scheme)
  | .ok (.web u) => if u.port = some 0 then .error .zeroPort else .ok u

/-- A text cut at its last colon. -/
def cutLastColon : List Char → Option (List Char × List Char)
  | [] => none
  | c :: rest =>
    match cutLastColon rest with
    | some (a, b) => some (c :: a, b)
    | none => if c = ':' then some ([], rest) else none

/-- Reads the target of a connection probe. The port is written in digits, after
a plus sign if there is one. -/
def socket (text : String) : Except TargetError (String × Nat) :=
  match cutLastColon text.toList with
  | none => .error .noColon
  | some (host, port) =>
    if host.isEmpty then .error .emptyHost
    else match Decimal.unsigned? 65536 port with
      | none => .error .badPort
      | some 0 => .error .zeroPort
      | some n => .ok (String.ofList host, n)

end Target

end Vigil
