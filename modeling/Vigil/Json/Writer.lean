import Vigil.Json.Basic

/-!
# Writing JSON

`Json.compact` writes a value without blanks. In texts the double quote, the
backslash and the control characters below the blank are escaped, and nothing
else is; so a written value never holds a line end.
-/

namespace Vigil.Json

/-- A character as it stands in a text. -/
def escapeChar (c : Char) : List Char :=
  if c = '"' then ['\\', '"']
  else if c = '\\' then ['\\', '\\']
  else if c = '\x08' then ['\\', 'b']
  else if c = '\x0c' then ['\\', 'f']
  else if c = '\n' then ['\\', 'n']
  else if c = '\r' then ['\\', 'r']
  else if c = '\t' then ['\\', 't']
  else if c.toNat < 0x20 then
    ['\\', 'u', '0', '0', Nat.digitChar (c.toNat / 16), Nat.digitChar (c.toNat % 16)]
  else [c]

/-- A text between quotes. -/
def quote (s : String) : List Char := '"' :: s.toList.flatMap escapeChar ++ ['"']

mutual

/-- The characters of a value. -/
def chars : Json → List Char
  | null => ['n', 'u', 'l', 'l']
  | bool true => ['t', 'r', 'u', 'e']
  | bool false => ['f', 'a', 'l', 's', 'e']
  | number n => n.text
  | text s => quote s
  | array items => '[' :: itemChars items ++ [']']
  | object fields => '{' :: fieldChars fields ++ ['}']
  | unreadable => ['n', 'u', 'l', 'l']

/-- The members of an array, with commas between them. -/
def itemChars : List Json → List Char
  | [] => []
  | [v] => chars v
  | v :: w :: rest => chars v ++ ',' :: itemChars (w :: rest)

/-- The members of an object, with commas between them. -/
def fieldChars : List (String × Json) → List Char
  | [] => []
  | [(name, v)] => quote name ++ ':' :: chars v
  | (name, v) :: w :: rest => quote name ++ ':' :: chars v ++ ',' :: fieldChars (w :: rest)

end

/-- The text of a value, without blanks. -/
def compact (v : Json) : String := String.ofList v.chars

end Vigil.Json
