import Vigil.Text.Unprintable
import Vigil.Text.Combining

/-!
# Texts in quotes

`quoted s` shows a text between double quotes in messages. A backslash and a
double quote are marked by a backslash, the common control characters have
their letter, and every other character that cannot be shown on its own is
written by its number, as in `\u{301}`.
-/

namespace Vigil.Text

/-- The number of a character, in hexadecimal between braces. -/
def numbered (c : Char) : List Char :=
  '\\' :: 'u' :: '\x7b' :: Nat.toDigits 16 c.toNat ++ ['\x7d']

/-- A character as it stands between double quotes. -/
def quotedChar (c : Char) : List Char :=
  if c = '\x00' then ['\\', '0']
  else if c = '\t' then ['\\', 't']
  else if c = '\r' then ['\\', 'r']
  else if c = '\n' then ['\\', 'n']
  else if c = '\\' then ['\\', '\\']
  else if c = '"' then ['\\', '"']
  else if 0x20 ≤ c.toNat && c.toNat ≤ 0x7E then [c]
  else if isCombining c || isUnprintable c then numbered c
  else [c]

/-- A text between double quotes. -/
def quoted (s : String) : String :=
  String.ofList ('"' :: s.toList.flatMap quotedChar ++ ['"'])

end Vigil.Text
