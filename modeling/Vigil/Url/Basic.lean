import Vigil.Url.Host

/-!
# URLs of the web
-/

namespace Vigil

/-- A URL of one of the two schemes of the web, in its normal form. -/
structure Url where
  /-- Whether the scheme is `https`. -/
  secure : Bool
  /-- The name and the password, percent-encoded; both may be empty. -/
  user : String
  password : String
  host : Url.Host
  /-- The number after the host, unless it is the one of the scheme. -/
  port : Option Nat
  /-- The segments of the path, at least one. -/
  path : List String
  query : Option String
  fragment : Option String

namespace Url

def scheme (u : Url) : String := if u.secure then "https" else "http"

/-- The port that a scheme has if nothing else is said. -/
def defaultPort (secure : Bool) : Nat := if secure then 443 else 80

/-- The name and the password in front of the host. -/
def userText (u : Url) : String :=
  if u.user.isEmpty ∧ u.password.isEmpty then ""
  else u.user ++ (if u.password.isEmpty then "" else ":" ++ u.password) ++ "@"

/-- The host, and the port after it. -/
def hostText (u : Url) : String :=
  u.host.text ++ (u.port.map fun n => ":" ++ toString n).getD ""

/-- The path and the query. -/
def pathText (u : Url) : String :=
  "/" ++ "/".intercalate u.path ++ (u.query.map ("?" ++ ·)).getD ""

def text (u : Url) : String :=
  u.scheme ++ "://" ++ u.userText ++ u.hostText ++ u.pathText ++
    (u.fragment.map ("#" ++ ·)).getD ""

end Url

end Vigil
