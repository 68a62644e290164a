import Vigil.Config.Codec
import Vigil.Files.Tree

/-!
# Configuration files

The configuration stands in a TOML file. If there is none, the standard
configuration is written to it.
-/

namespace Vigil

/-- Why there is no configuration. -/
inductive ConfigError where
  | readFailed (e : FileError)
  | writeFailed (e : FileError)
  | parseFailed
  | serializeFailed
deriving DecidableEq, Repr

/-- The text of an error, where it does not depend on the document. -/
def ConfigError.message? : ConfigError → Option String
  | readFailed e => some ("failed to read config: " ++ e.message)
  | writeFailed e => some ("failed to write config: " ++ e.message)
  | parseFailed => none
  | serializeFailed => none

namespace Config

/-- The octets of a text. -/
def octets (text : String) : List UInt8 := text.toUTF8.toList

/-- The path of the configuration file that a path names: it ends in `.toml`. -/
def filePath (path : String) : String := Path.withExtension "toml" path

/-- The configuration file of a user, from the directory for configurations, if
there is one, and the home directory. -/
def userPath (configHome : Option String) (home : String) : String :=
  Path.join (configHome.getD (Path.join home ".config")) "netwatch/config.toml"

/-- Writes a configuration to a file, with the directories in front of it. -/
def save (c : Config) (path : String) (t : FileTree) : Except ConfigError Unit × FileTree :=
  match c.toml? with
  | none => (.error .serializeFailed, t)
  | some text =>
    match t.makeParents path with
    | (.error e, t) => (.error (.writeFailed e), t)
    | (.ok (), t) =>
      match t.write path (octets text) with
      | .error e => (.error (.writeFailed e), t)
      | .ok t => (.ok (), t)

/-- Reads the configuration from a file, or writes the standard one to it. -/
def load (path : String) (t : FileTree) : Except ConfigError Config × FileTree :=
  if t.contains path then
    match t.readText path with
    | .error e => (.error (.readFailed e), t)
    | .ok text =>
      match ofText? text with
      | none => (.error .parseFailed, t)
      | some c => (.ok c, t)
  else
    match save .standard path t with
    | (.error e, t) => (.error e, t)
    | (.ok (), t) => (.ok .standard, t)

end Config

end Vigil
