import Vigil.Text.Base64
import Vigil.Url.Reference
import Vigil.Probe.Connection
import Vigil.Probe.Registry

/-!
# A network with one server

The only server of this network listens at one port of the machine itself, and
treats each connection as it was told beforehand; all other ports refuse
connections. Answers arrive after a latency that is always the same.
-/

namespace Vigil

/-- What the server does with a connection. -/
inductive Reply where
  /-- Reads the request and answers it; a page whose size is not announced has
  none. -/
  | answer (status : Nat) (location : Option String) (size : Option Nat)
  /-- Reads the request and closes the connection. -/
  | close
  /-- Reads the request and never answers. -/
  | hang

namespace Reply

/-- The value of a line of a header, if it has the given name. -/
def headerValue? (name line : String) : Option String :=
  match line.splitOn ":" with
  | n :: rest =>
    if n.trimAscii.toString.toLower == name then some (":".intercalate rest).trimAscii.toString
    else none
  | [] => none

/-- The answer with a page and more lines in its header. The page comes with its
size, or in chunks, or until the connection closes. -/
def page (status : Nat) (body : String) (chunked sized : Bool) (header : List String) : Reply :=
  let size := if chunked then none
    else if sized then some body.utf8ByteSize
    else (header.findSome? (headerValue? "content-length")).bind String.toNat?
  answer status (header.findSome? (headerValue? "location")) size

end Reply

/-- A request that the server has read. -/
structure WebRequest where
  /-- The path and the query. -/
  path : String
  /-- What the client says about who is asking. -/
  authorization : Option String
deriving DecidableEq, Repr

/-- The network. -/
structure Network where
  port : Nat
  /-- What is done with the connections in order; the last one goes on for ever. -/
  replies : List Reply
  /-- Whether connections are neither accepted nor refused. -/
  full : Bool
  /-- Whether every wait for an answer lasts as long as it may. -/
  paused : Bool
  latency : Duration
  connections : Nat
  /-- The requests, the oldest first. -/
  requests : List WebRequest

namespace Network

/-- The network before the first connection. -/
def start (port : Nat) (replies : List Reply) (latency : Duration) : Network :=
  ⟨port, replies, false, false, latency, 0, []⟩

/-- Whether an address is one of the server. -/
def isHome (a : Url.Ipv4) : Bool := a == 0x7F000001 || a == 0

/-- Whether a host and a port lead to the server. -/
def isServed (n : Network) (host : Url.Host) (port : Nat) : Bool :=
  port == n.port && match host with
    | .domain name => name == "localhost"
    | .ipv4 a => isHome a
    | .ipv6 _ => false

/-- What is done with the next connection. -/
def reply (n : Network) : Reply :=
  (n.replies[n.connections]? <|> n.replies.getLast?).getD .close

/-- The network after a connection on which a request was read. -/
def serve (n : Network) (r : WebRequest) : Network :=
  { n with connections := n.connections + 1, requests := n.requests ++ [r] }

/-- What a client says about the user of a URL. -/
def authorization? (url : Url) : Option String :=
  if url.user.isEmpty ∧ url.password.isEmpty then none
  else
    let octets := Url.decode url.user.toList ++ 0x3A :: Url.decode url.password.toList
    some ("Basic " ++ String.ofList (Text.Base64.encode octets))

/-- The redirects that are followed in one attempt. -/
def redirectLimit : Nat := 10

/-- Where an answer sends the client on to, if it does. -/
def redirect? (base : Url) (status : Nat) (location : Option String) :
    Option (Except WebError Url) :=
  match location with
  | none => none
  | some reference =>
    if [301, 302, 303, 307, 308].contains status && Url.isReference reference.toList then
      let text := Url.resolveReference base reference
      match Url.read text with
      | .ok (.web u) => some (.ok u)
      | .ok (.foreign scheme) =>
        if text.startsWith (scheme ++ "://") then some (.error (.foreignRedirect text)) else none
      | .error _ => none
    else none

/-- The size that a client knows of an answer: some answers have no page. -/
def knownSize (status : Nat) (size : Option Nat) : Option Nat :=
  if [101, 204, 304].contains status then some 0 else size

/-- Whether a status ends the wait for an answer. -/
def isFinal (status : Nat) : Bool :=
  status == 101 || decide (200 ≤ status ∧ status < 1000)

/-- One attempt to get a page, which may lead through redirects. A failure names
the first URL, without its user. -/
def request (limit : Duration) (first : Url) :
    Nat → Url → Option String → Network → Attempt WebAnswer × Network := fun redirects url user n =>
  let failed (d : Duration) (e : WebError) : Attempt WebAnswer := ⟨d, .error e.message⟩
  let unanswered : WebError := .unanswered { first with user := "", password := "" }.text
  if !n.isServed url.host (url.port.getD (Url.defaultPort url.secure)) then
    (failed .zero unanswered, n)
  else if n.full then (failed limit unanswered, n)
  else if url.secure then
    (failed .zero unanswered, { n with connections := n.connections + 1 })
  else
    let served := n.serve ⟨url.pathText, user⟩
    match n.reply with
    | .close => (failed n.latency unanswered, served)
    | .hang => (failed limit unanswered, served)
    | .answer status location size =>
      if n.paused then (failed limit unanswered, served)
      else if !isFinal status then (failed n.latency unanswered, served)
      else match redirect? url status location with
        | some (.error e) => (failed n.latency e, served)
        | none =>
          (⟨n.latency, .ok ⟨n.latency, status, knownSize status size⟩⟩, served)
        | some (.ok next) =>
          match redirects with
          | 0 => (failed n.latency (.tooManyRedirects url.bare.text), served)
          | redirects + 1 =>
            let sameServer := next.hostText == url.hostText && next.secure == url.secure
            request limit first redirects next (if sameServer then user else none) served

/-- One attempt to get a page. -/
def get (limit : Duration) (url : Url) (n : Network) : Attempt WebAnswer × Network :=
  n.request limit url redirectLimit url (authorization? url)

/-- One attempt to open a connection. -/
def connect (limit : Duration) (host : String) (port : Nat) (n : Network) :
    Attempt Duration × Network :=
  let served := host == "localhost" || ((Url.Ipv4.ofText? host.toList).map isHome).getD false
  if !(served && port == n.port) then (⟨.zero, .error ConnectionError.refused.message⟩, n)
  else if n.full then (⟨limit, .error ConnectionError.timeout.message⟩, n)
  else (⟨n.latency, .ok n.latency⟩, { n with connections := n.connections + 1 })

/-- What a probe does for an item on this network. -/
def program (probe : BuiltinProbe) (item : Settings) (n : Network) : Program × Network :=
  match probe with
  | .http => WebProbe.program item (fun url => get item.timeout url) n
  | .tcp => ConnectionProbe.program item (connect item.timeout) n

end Network

end Vigil
