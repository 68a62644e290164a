/-!
# Texts in TOML

A text stands between quotes. Between double quotes a backslash starts an
escape, between single quotes every character stands for itself. Three quotes
enclose a text of several lines: a line end right after them does not belong to
the text, and up to two quotes more may stand before the closing ones.

`Quoting` tells how a text is written, and `Quoting.best` chooses the way that
needs the least escapes.
-/

namespace Vigil.Toml

/-- Whether a character may stand for itself in a text or a comment. -/
def isPlain (c : Char) : Bool := c == '\t' || (0x20 ≤ c.toNat && c.toNat != 0x7F)

def isSpace (c : Char) : Bool := c == ' ' || c == '\t'

/-! ### Reading -/

def hexDigit? (c : Char) : Option Nat :=
  if '0' ≤ c ∧ c ≤ '9' then some (c.toNat - '0'.toNat)
  else if 'a' ≤ c ∧ c ≤ 'f' then some (c.toNat - 'a'.toNat + 10)
  else if 'A' ≤ c ∧ c ≤ 'F' then some (c.toNat - 'A'.toNat + 10)
  else none

/-- The character whose number hexadecimal digits write. -/
def coded? (digits : List Char) : Option Char := do
  let n ← digits.foldlM (fun n c => return n * 16 + (← hexDigit? c)) 0
  if n < 0xD800 ∨ (0xE000 ≤ n ∧ n < 0x110000) then some (Char.ofNat n) else none

/-- The character that a backslash and a letter stand for. -/
def escaped? : Char → Option Char
  | 'b' => some '\x08'
  | 't' => some '\t'
  | 'n' => some '\n'
  | 'f' => some '\x0c'
  | 'r' => some '\r'
  | '"' => some '"'
  | '\\' => some '\\'
  | _ => none

/-- Puts a character in front of what was read. -/
def consRead (c : Char) (r : Option (List Char × List Char)) : Option (List Char × List Char) :=
  r.map fun (s, rest) => (c :: s, rest)

/-- Reads on after a double quote: the text, and what follows the closing quote. -/
def readBasic? : List Char → Option (List Char × List Char)
  | [] => none
  | '"' :: rest => some ([], rest)
  | '\\' :: 'u' :: a :: b :: c :: d :: rest =>
    (coded? [a, b, c, d]).bind fun x => consRead x (readBasic? rest)
  | '\\' :: 'U' :: a :: b :: c :: d :: e :: f :: g :: h :: rest =>
    (coded? [a, b, c, d, e, f, g, h]).bind fun x => consRead x (readBasic? rest)
  | '\\' :: c :: rest => (escaped? c).bind fun x => consRead x (readBasic? rest)
  | c :: rest => if isPlain c then consRead c (readBasic? rest) else none

/-- Reads on after a single quote. -/
def readLiteral? : List Char → Option (List Char × List Char)
  | [] => none
  | '\'' :: rest => some ([], rest)
  | c :: rest => if isPlain c then consRead c (readLiteral? rest) else none

/-- The quotes that still belong to a text after the first three, and the rest. -/
def closeLong (q : Char) : List Char → List Char × List Char
  | [] => ([], [])
  | [c] => if c = q then ([q], []) else ([], [c])
  | c :: d :: rest =>
    if c = q then if d = q then ([q, q], rest) else ([q], d :: rest) else ([], c :: d :: rest)

/-- Whether a text starts with a line end. -/
def startsLine : List Char → Bool
  | '\n' :: _ => true
  | '\r' :: '\n' :: _ => true
  | _ => false

/-- A text without the line end at its start. -/
def dropLine : List Char → List Char
  | '\n' :: rest => rest
  | '\r' :: '\n' :: rest => rest
  | s => s

/-- Reads on in a text between three double quotes. After a backslash at the end
of a line blanks and line ends are skipped. -/
def readLongBasic? (skipping : Bool) : List Char → Option (List Char × List Char)
  | [] => none
  | '"' :: '"' :: '"' :: rest => some (closeLong '"' rest)
  | '\\' :: rest =>
    if startsLine (rest.dropWhile isSpace) then readLongBasic? true rest
    else match rest with
      | 'u' :: a :: b :: c :: d :: rest =>
        (coded? [a, b, c, d]).bind fun x => consRead x (readLongBasic? false rest)
      | 'U' :: a :: b :: c :: d :: e :: f :: g :: h :: rest =>
        (coded? [a, b, c, d, e, f, g, h]).bind fun x => consRead x (readLongBasic? false rest)
      | c :: rest => (escaped? c).bind fun x => consRead x (readLongBasic? false rest)
      | [] => none
  | '\r' :: '\n' :: rest =>
    if skipping then readLongBasic? true rest else consRead '\n' (readLongBasic? false rest)
  | c :: rest =>
    if c = '\n' ∨ isPlain c then
      if skipping ∧ (c = '\n' ∨ isSpace c) then readLongBasic? true rest
      else consRead c (readLongBasic? false rest)
    else none

/-- Reads on in a text between three single quotes. -/
def readLongLiteral? : List Char → Option (List Char × List Char)
  | [] => none
  | '\'' :: '\'' :: '\'' :: rest => some (closeLong '\'' rest)
  | '\r' :: '\n' :: rest => consRead '\n' (readLongLiteral? rest)
  | c :: rest => if c = '\n' ∨ isPlain c then consRead c (readLongLiteral? rest) else none

/-- Reads a text of one line or more, quotes included. -/
def readText? : List Char → Option (String × List Char)
  | '"' :: '"' :: '"' :: rest => asText (readLongBasic? false (dropLine rest))
  | '\'' :: '\'' :: '\'' :: rest => asText (readLongLiteral? (dropLine rest))
  | '"' :: rest => asText (readBasic? rest)
  | '\'' :: rest => asText (readLiteral? rest)
  | _ => none
where
  asText (r : Option (List Char × List Char)) : Option (String × List Char) :=
    r.map fun (s, rest) => (String.ofList s, rest)

/-! ### Writing -/

/-- The ways to write a text. -/
inductive Quoting where
  | basic
  | literal
  | longBasic
  | longLiteral
deriving DecidableEq, Repr

/-- The length of the longest run of a character, with a run of `n` before the
text. -/
def longestRun (q : Char) (n : Nat) : List Char → Nat
  | [] => n
  | c :: rest => if c = q then longestRun q (n + 1) rest else max n (longestRun q 0 rest)

/-- Whether a character can be written only as an escape, line ends aside. -/
def needsEscape (c : Char) : Bool := !isPlain c && c != '\n'

namespace Quoting

/-- The way that a text is written: the first one of the four that needs no
escape, and else the double quotes. -/
def best (s : List Char) : Quoting :=
  let lines := s.contains '\n'
  let escapes := s.any needsEscape
  let backslash := s.contains '\\'
  let doubles := longestRun '"' 0 s
  let singles := longestRun '\'' 0 s
  if !escapes && !backslash && doubles == 0 && !lines then basic
  else if !escapes && singles == 0 && !lines then literal
  else if !escapes && !backslash && doubles ≤ 2 then longBasic
  else if !escapes && singles ≤ 2 then longLiteral
  else if lines then longBasic
  else basic

/-- The quotes at the two ends. -/
def quotes : Quoting → List Char
  | basic => ['"']
  | literal => ['\'']
  | longBasic => ['"', '"', '"']
  | longLiteral => ['\'', '\'', '\'']

/-- Whether characters stand for themselves. -/
def isLiteral : Quoting → Bool
  | basic => false
  | literal => true
  | longBasic => false
  | longLiteral => true

def isLong : Quoting → Bool
  | basic => false
  | literal => false
  | longBasic => true
  | longLiteral => true

end Quoting

/-- Four hexadecimal digits. -/
def hexDigits (n : Nat) : List Char :=
  let digit (d : Nat) : Char :=
    Char.ofNat (if d < 10 then '0'.toNat + d else 'A'.toNat + (d - 10))
  [digit (n / 4096 % 16), digit (n / 256 % 16), digit (n / 16 % 16), digit (n % 16)]

/-- A character inside of double quotes; `quotes` is how many quotes stand right
before it, and as many as `free` may stand for themselves. -/
def escape (long : Bool) (quotes : Nat) (c : Char) : List Char :=
  if c = '"' then if (if long then 2 else 0) ≤ quotes then ['\\', '"'] else ['"']
  else if c = '\\' then ['\\', '\\']
  else if c = '\n' then if long then ['\n'] else ['\\', 'n']
  else if c = '\x08' then ['\\', 'b']
  else if c = '\t' then ['\\', 't']
  else if c = '\x0c' then ['\\', 'f']
  else if c = '\r' then ['\\', 'r']
  else if isPlain c then [c]
  else ['\\', 'u'] ++ hexDigits c.toNat

/-- The characters of a text inside of double quotes. -/
def escapeAll (long : Bool) (quotes : Nat) : List Char → List Char
  | [] => []
  | c :: rest =>
    let next := if c = '"' ∧ escape long quotes c = ['"'] then quotes + 1 else 0
    escape long quotes c ++ escapeAll long next rest

/-- Writes a text. A text of several lines starts on a line of its own. -/
def writeText (s : String) : String :=
  let cs := s.toList
  let q := Quoting.best cs
  let start := if q.isLong ∧ cs.contains '\n' then ['\n'] else []
  let body := if q.isLiteral then cs else escapeAll q.isLong 0 cs
  String.ofList (q.quotes ++ start ++ body ++ q.quotes)

end Vigil.Toml
