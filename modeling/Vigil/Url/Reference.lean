import Vigil.Url.Reader

/-!
# References

A reference is a URL with parts left out at its front, which a base supplies.
-/

namespace Vigil.Url

/-- The characters that stand for themselves in a reference. -/
def isReferenceChar (c : Char) : Bool :=
  isAsciiLetter c || ('0' ≤ c && c ≤ '9') || "-._~:/?#[]@!$&'()*+,;=".toList.contains c

/-- Whether a text has the characters of a reference only, and escapes. -/
def isReference : List Char → Bool
  | [] => true
  | '%' :: c :: d :: rest => (hexValue? c).isSome && (hexValue? d).isSome && isReference rest
  | c :: rest => isReferenceChar c && isReference rest

/-- A URL without the name and the password, and without the fragment. -/
def bare (u : Url) : Url := { u with user := "", password := "", fragment := none }

/-- The scheme and the host. -/
def origin (u : Url) : String := u.scheme ++ "://" ++ u.hostText

/-- The text of the URL that a reference stands for. -/
def resolveReference (base : Url) (reference : String) : String :=
  match cutScheme? reference.toList with
  | some _ => reference
  | none =>
    match reference.toList with
    | [] => base.bare.text
    | '/' :: '/' :: _ => base.scheme ++ ":" ++ reference
    | '/' :: _ => base.origin ++ reference
    | '?' :: _ => base.origin ++ { base with query := none }.pathText ++ reference
    | '#' :: _ => base.bare.text ++ reference
    | _ => base.origin ++ "/" ++ "/".intercalate (base.path.dropLast ++ [reference])

end Vigil.Url
