import Vigil.Text.Quoted
import Vigil.Json.Writer
import Vigil.Log.Filter

/-!
# Log formats

A logger is set up by the level of the configuration and by two texts of the
surroundings: a filter and the name of a format. Lines are shown without the
time at which they were written.
-/

namespace Vigil

/-- How lines are shown. -/
inductive LogFormat where
  /-- One document each. -/
  | document
  /-- The level and the message. -/
  | short
  /-- The level, the target and the message. -/
  | withTarget
deriving DecidableEq, Repr

/-- What writes a log. -/
structure Logger where
  filter : LogFilter
  format : LogFormat
  /-- A line about the setting-up itself. -/
  remark : Option LogLine

namespace Logger

/-- The format that a name stands for, and what is to be said about the name. -/
def readFormat : String → LogFormat × Option LogLine
  | "json" => (.document, none)
  | "" => (.short, none)
  | "compact" => (.short, none)
  | other => (.withTarget, some ⟨.warn, "logger",
      "Unknown RUST_LOG_FORMAT " ++ Text.quoted other ++ ", using compact output"⟩)

/-- Sets a logger up. A level that is no verbosity counts as `info`. -/
def setUp (level format filter : String) : Logger :=
  let (format, remark) := readFormat format
  ⟨.ofText ((Verbosity.ofText? level).getD (.upTo .info)) filter, format, remark⟩

/-- The lines that a logger writes of those it is given. -/
def lines (l : Logger) (given : List LogLine) : List LogLine :=
  (l.remark.toList ++ given).filter l.filter.allows

end Logger

namespace LogLine

/-- A line as a text. -/
def text (format : LogFormat) (line : LogLine) : String :=
  match format with
  | .document => (Json.object [("level", .text line.level.label),
      ("fields", .object [("message", .text line.message)]), ("target", .text line.target)]).compact
  | .short => line.level.label ++ " " ++ line.message
  | .withTarget => line.level.label ++ " " ++ line.target ++ ": " ++ line.message

end LogLine

end Vigil
