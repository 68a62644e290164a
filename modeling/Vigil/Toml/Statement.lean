import Vigil.Toml.Scalar
import Vigil.Toml.Table
import Vigil.Toml.Text

/-!
# Statements of TOML

A document is a sequence of statements, each on a line of its own: the header of
a table, or a key with its value. Comments go from a number sign to the end of a
line.
-/

namespace Vigil.Toml

/-- A line of a document. -/
inductive Statement where
  /-- The header of a table; with `repeated` of one of several. -/
  | header (repeated : Bool) (path : List String)
  | pair (path : List String) (v : Toml)

/-- Reading something from the front of a text. -/
abbrev Reader (α : Type) := List Char → Option (α × List Char)

/-- Values are nested up to this depth, and keys have at most as many parts. -/
def maxDepth : Nat := 79

def skipSpaces (s : List Char) : List Char := s.dropWhile isSpace

/-- What follows the comment at the front of a text, if there is one. The
comment goes to the end of its line. -/
def skipComment? : List Char → Option (List Char)
  | '#' :: rest =>
    let tail := rest.dropWhile isPlain
    if tail.isEmpty || startsLine tail then some tail else none
  | s => some s

/-- What follows the end of a line, with blanks and a comment in front of it. -/
def endLine? (s : List Char) : Option (List Char) := do
  let s ← skipComment? (skipSpaces s)
  if s.isEmpty || startsLine s then some (dropLine s) else none

/-- What follows blanks, comments and line ends; there are no more than `n`
lines. -/
def skipLines? : Nat → List Char → Option (List Char)
  | 0, _ => none
  | n + 1, s => do
    let s ← skipComment? (skipSpaces s)
    if startsLine s then skipLines? n (dropLine s) else some s

/-! ### Keys -/

def isKeyChar (c : Char) : Bool :=
  isDigit c || ('a' ≤ c && c ≤ 'z') || ('A' ≤ c && c ≤ 'Z') || c == '_' || c == '-'

/-- Reads one part of a key. -/
def readKeyPart? : Reader String
  | '"' :: rest => readText?.asText (readBasic? rest)
  | '\'' :: rest => readText?.asText (readLiteral? rest)
  | s =>
    let word := s.takeWhile isKeyChar
    if word.isEmpty then none else some (String.ofList word, s.dropWhile isKeyChar)

/-- Reads a key of up to `n` parts with dots between them. -/
def readKey? : Nat → Reader (List String)
  | 0, _ => none
  | n + 1, s => do
    let (part, s) ← readKeyPart? (skipSpaces s)
    match skipSpaces s with
    | '.' :: s => return (← readKey? n s).map (part :: ·) id
    | s => return ([part], s)

/-! ### Values -/

/-- Reads on in an array of up to `n` values. -/
def readItems? (value : Reader Toml) : Nat → Reader (List Toml)
  | 0, _ => none
  | n + 1, s => do
    match ← skipLines? (s.length + 1) s with
    | ']' :: s => return ([], s)
    | s =>
      let (v, s) ← value s
      match ← skipLines? (s.length + 1) s with
      | ']' :: s => return ([v], s)
      | ',' :: s => return (← readItems? value n s).map (v :: ·) id
      | _ => none

/-- Reads a key, an equals sign and a value. -/
def readPair? (value : Reader Toml) : Reader (List String × Toml) := fun s => do
  let (path, s) ← readKey? maxDepth s
  match s with
  | '=' :: s =>
    let (v, s) ← value (skipSpaces s)
    return ((path, v), s)
  | _ => none

/-- Reads on in a table written as a value, with up to `n` pairs. -/
def readPairs? (value : Reader Toml) : Nat → Reader (List (List String × Toml))
  | 0, _ => none
  | n + 1, s => do
    let (pair, s) ← readPair? value s
    match skipSpaces s with
    | '}' :: s => return ([pair], s)
    | ',' :: s => return (← readPairs? value n s).map (pair :: ·) id
    | _ => none

/-- The table with all pairs of a list. -/
def ofPairs? (pairs : List (List String × Toml)) : Option Toml :=
  (pairs.foldlM (fun t (path, v) => insert? path v t) []).map (.table .inline)

/-- Reads a value that is nested up to `depth` deep. -/
def readValue? : Nat → Reader Toml
  | 0, _ => none
  | depth + 1, s =>
    match s with
    | '[' :: rest =>
      if depth = 0 then none
      else (readItems? (readValue? depth) (rest.length + 1) rest).map fun (vs, s) => (.array vs, s)
    | '{' :: rest =>
      if depth = 0 then none
      else match skipSpaces rest with
        | '}' :: s => some (.table .inline [], s)
        | rest => do
          let (pairs, s) ← readPairs? (readValue? depth) (rest.length + 1) rest
          return (← ofPairs? pairs, s)
    | '"' :: _ => (readText? s).map fun (t, s) => (.text t, s)
    | '\'' :: _ => (readText? s).map fun (t, s) => (.text t, s)
    | _ => readWord? s

/-! ### Documents -/

/-- Reads a header in brackets. -/
def readHeader? : Reader Statement
  | '[' :: '[' :: s => do
    let (path, s) ← readKey? maxDepth s
    match s with
    | ']' :: ']' :: s => return (.header true path, s)
    | _ => none
  | '[' :: s => do
    let (path, s) ← readKey? maxDepth s
    match s with
    | ']' :: s => return (.header false path, s)
    | _ => none
  | _ => none

/-- Reads a statement to the end of its line. -/
def readStatement? : Reader Statement := fun s => do
  let (statement, s) ← match s with
    | '[' :: _ => readHeader? s
    | _ => (readPair? (readValue? (maxDepth + 1)) s).map fun ((path, v), s) => (.pair path v, s)
  return (statement, ← endLine? s)

/-- Reads up to `n` statements, which are all of a text. -/
def readAll? : Nat → List Char → Option (List Statement)
  | 0, _ => none
  | n + 1, s => do
    match ← skipLines? (s.length + 1) s with
    | [] => return []
    | s =>
      let (statement, s) ← readStatement? s
      return statement :: (← readAll? n s)

/-- The statements of a document. A mark of the order of octets at its start is
passed over. -/
def statements? (text : String) : Option (List Statement) :=
  let s := match text.toList with
    | '\ufeff' :: rest => rest
    | s => s
  readAll? (s.length + 1) s

end Vigil.Toml
