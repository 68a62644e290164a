import Vigil.Url.Basic

/-!
# Reading URLs

Any text with a scheme is an address. The ones of the web are read to the end;
the ones of other schemes are only checked, as far as they have a host.
Controls and blanks around a text are dropped, and tabs and line ends within it
too.
-/

namespace Vigil.Url

/-- What a text addresses. -/
inductive Address where
  | web (u : Url)
  | foreign (scheme : String)

/-- The kinds of schemes. -/
inductive SchemeKind where
  | web (secure : Bool)
  /-- A scheme that is no one of the web, but has hosts of the same kind. -/
  | alike
  | file
  | other
deriving DecidableEq, Repr

namespace SchemeKind

def ofScheme (scheme : String) : SchemeKind :=
  if scheme = "http" then web false
  else if scheme = "https" then web true
  else if scheme = "ftp" ∨ scheme = "ws" ∨ scheme = "wss" then alike
  else if scheme = "file" then file
  else other

/-- Whether a backslash counts as a slash. -/
def isSpecial (k : SchemeKind) : Bool := k != other

end SchemeKind

/-- A text without what is dropped before it is read. -/
def prune (s : List Char) : List Char :=
  let outer (c : Char) : Bool := c.toNat ≤ 0x20
  let s := s.dropWhile outer
  let s := (s.reverse.dropWhile outer).reverse
  s.filter fun c => c != '\t' && c != '\n' && c != '\r'

def isAsciiLetter (c : Char) : Bool := ('a' ≤ c && c ≤ 'z') || ('A' ≤ c && c ≤ 'Z')

def isSchemeChar (c : Char) : Bool :=
  isAsciiLetter c || ('0' ≤ c && c ≤ '9') || c == '+' || c == '-' || c == '.'

/-- The scheme of a text, in lower case, and what follows its colon. -/
def cutScheme? (s : List Char) : Option (String × List Char) :=
  match s with
  | c :: _ =>
    if isAsciiLetter c then
      match s.dropWhile isSchemeChar with
      | ':' :: rest => some (String.ofList ((s.takeWhile isSchemeChar).map Char.toLower), rest)
      | _ => none
    else none
  | [] => none

/-- Whether a character ends the part with the host. -/
def endsHost (special : Bool) (c : Char) : Bool :=
  c == '/' || c == '?' || c == '#' || (special && c == '\\')

/-- The text before the last at sign of a part, and the text after it. -/
def cutLastAt (s : List Char) : Option (List Char × List Char) :=
  if s.contains '@' then
    let r := s.reverse
    some (((r.dropWhile (· != '@')).drop 1).reverse, (r.takeWhile (· != '@')).reverse)
  else none

/-- The name and the password in front of a host, and all that follows them. -/
def readUser (special : Bool) (s : List Char) :
    Except Error ((List Char × List Char) × List Char) :=
  let part := s.takeWhile (!endsHost special ·)
  let tail := s.dropWhile (!endsHost special ·)
  match cutLastAt part with
  | none => .ok (([], []), s)
  | some ([], host) =>
    if host.isEmpty ∧ !tail.isEmpty then .error .emptyHost else .ok (([], []), host ++ tail)
  | some (user, host) =>
    .ok ((encode .userInfo (user.takeWhile (· != ':')),
      encode .userInfo ((user.dropWhile (· != ':')).drop 1)), host ++ tail)

/-- The host at the front of a text, which a colon outside of brackets ends, and
the rest. -/
def cutHost (special : Bool) (inside : Bool) : List Char → List Char × List Char
  | [] => ([], [])
  | c :: rest =>
    if endsHost special c || (c == ':' && !inside) then ([], c :: rest)
    else
      let (host, tail) := cutHost special (c == '[' || (c != ']' && inside)) rest
      (c :: host, tail)

/-- The number at the front of a text, and the rest. An absent number counts as
none. -/
def readPort (s : List Char) : Except Error (Option Nat × List Char) :=
  let isDigit (c : Char) : Bool := '0' ≤ c && c ≤ '9'
  let digits := s.takeWhile isDigit
  let n := digits.foldl (fun n c => n * 10 + (c.toNat - '0'.toNat)) 0
  let rest := s.dropWhile isDigit
  if n ≥ 65536 then .error .badPort
  else match rest.head? with
    | some c => if endsHost true c then .ok (if digits.isEmpty then none else some n, rest)
      else .error .badPort
    | none => .ok (if digits.isEmpty then none else some n, rest)

/-- The host and the port at the front of a text, and the rest. -/
def readHostPort (kind : SchemeKind) (s : List Char) :
    Except Error (Host × Option Nat × List Char) := do
  let (name, rest) := cutHost kind.isSpecial false s
  let host ← if kind.isSpecial then
      if name.isEmpty then throw .emptyHost else Host.read name
    else
      if name.isEmpty ∧ rest.head? = some ':' then throw .emptyHost else Host.readOpaque name
  match rest with
  | ':' :: rest =>
    let (port, rest) ← readPort rest
    return (host, port, rest)
  | rest => return (host, none, rest)

/-- Whether a segment of a path stands for the one above. -/
def isDoubleDot (s : String) : Bool :=
  let t := String.ofList (s.toList.map Char.toLower)
  t == ".." || t == ".%2e" || t == "%2e." || t == "%2e%2e"

/-- Whether a segment of a path stands for nothing. -/
def isSingleDot (s : String) : Bool :=
  let t := String.ofList (s.toList.map Char.toLower)
  t == "." || t == "%2e"

/-- Whether a segment is the letter of a drive, which nothing goes above. -/
def isDrive (s : String) : Bool :=
  match s.toList with
  | [c, d] => isAsciiLetter c && (d == ':' || d == '|')
  | _ => false

/-- The segments above the last one of a path, given the last one first. -/
def parent : List String → List String
  | [] => []
  | s :: above => if isDrive s then s :: above else above

/-- The segments of a path after those that are known, the last one first, with
the dots worked out. -/
def resolve (above : List String) : List String → List String
  | [] => above.reverse
  | [s] =>
    if isDoubleDot s then ("" :: parent above).reverse
    else if isSingleDot s then ("" :: above).reverse
    else (s :: above).reverse
  | s :: rest =>
    if isDoubleDot s then resolve (parent above) rest
    else if isSingleDot s then resolve above rest
    else resolve (s :: above) rest

/-- The segments of the path at the front of a text. -/
def readPath (s : List Char) : List String :=
  let s := match s with
    | '/' :: rest => rest
    | '\\' :: rest => rest
    | _ => s
  resolve [] ((s.splitOnP fun c => c == '/' || c == '\\').map fun segment =>
    String.ofList (encode .path segment))

/-- All of a URL of the web after its scheme and the slashes. -/
def readWeb (secure : Bool) (s : List Char) : Except Error Url := do
  let ((user, password), s) ← readUser true s
  let (host, port, s) ← readHostPort (.web secure) s
  let isPath (c : Char) : Bool := c != '?' && c != '#'
  let path := readPath (s.takeWhile isPath)
  let s := s.dropWhile isPath
  let query := match s with
    | '?' :: rest => some (String.ofList (encode .query (rest.takeWhile (· != '#'))))
    | _ => none
  let fragment := match s.dropWhile (· != '#') with
    | '#' :: rest => some (String.ofList (encode .fragment rest))
    | _ => none
  return {
    secure, user := String.ofList user, password := String.ofList password, host
    port := if port = some (defaultPort secure) then none else port
    path, query, fragment }

/-- Checks the host of a URL of a file. -/
def checkFile (s : List Char) : Except Error Unit := do
  let isSlash (c : Char) : Bool := c == '/' || c == '\\'
  match s with
  | c :: d :: rest =>
    if isSlash c && isSlash d then
      let host := rest.takeWhile (!endsHost true ·)
      if !host.isEmpty && !isDrive (String.ofList host) then discard (Host.read host)
  | _ => return

/-- Checks the host of a URL of a scheme that is not known. -/
def checkOther (s : List Char) : Except Error Unit :=
  match s with
  | '/' :: '/' :: rest => do
    let ((user, password), rest) ← readUser false rest
    let (host, _, _) ← readHostPort .other rest
    if host.text.isEmpty ∧ !(user.isEmpty ∧ password.isEmpty) then throw .emptyHost
  | _ => return

/-- Reads an address. -/
def read (text : String) : Except Error Address := do
  match cutScheme? (prune text.toList) with
  | none => throw .noScheme
  | some (scheme, rest) =>
    let afterSlashes := rest.dropWhile fun c => c == '/' || c == '\\'
    match SchemeKind.ofScheme scheme with
    | .web secure => return .web (← readWeb secure afterSlashes)
    | .alike =>
      discard (readWeb false afterSlashes)
      return .foreign scheme
    | .file =>
      checkFile rest
      return .foreign scheme
    | .other =>
      checkOther rest
      return .foreign scheme

end Vigil.Url
