import Vigil.Decimal.Whole

/-!
# Log levels

A line of a log has one of five levels. A verbosity says which levels are
written: none, or all from the gravest one on up to some level.
-/

namespace Vigil

/-- How grave a line of a log is. -/
inductive LogLevel where
  | error
  | warn
  | info
  | debug
  | trace
deriving DecidableEq, Repr

namespace LogLevel

/-- The place of a level, the gravest one being the first. -/
def rank : LogLevel → Nat
  | error => 1
  | warn => 2
  | info => 3
  | debug => 4
  | trace => 5

/-- The level as it stands in a line. -/
def label : LogLevel → String
  | error => "ERROR"
  | warn => "WARN"
  | info => "INFO"
  | debug => "DEBUG"
  | trace => "TRACE"

end LogLevel

/-- How much is written to a log. -/
inductive Verbosity where
  | off
  | upTo (l : LogLevel)
deriving DecidableEq, Repr

namespace Verbosity

def allows : Verbosity → LogLevel → Bool
  | off, _ => false
  | upTo m, l => decide (l.rank ≤ m.rank)

/-- The verbosity that a number stands for. -/
def ofNumber? : Nat → Option Verbosity
  | 0 => some off
  | 1 => some (upTo .error)
  | 2 => some (upTo .warn)
  | 3 => some (upTo .info)
  | 4 => some (upTo .debug)
  | 5 => some (upTo .trace)
  | _ => none

/-- The verbosity that a word in lower case names; the empty one asks for errors
only. -/
def ofName? : String → Option Verbosity
  | "" => some (upTo .error)
  | "off" => some off
  | "error" => some (upTo .error)
  | "warn" => some (upTo .warn)
  | "info" => some (upTo .info)
  | "debug" => some (upTo .debug)
  | "trace" => some (upTo .trace)
  | _ => none

/-- The verbosity that a text names, by a word in any case or by a number. -/
def ofText? (text : String) : Option Verbosity :=
  ((Decimal.unsigned? UInt64.size text.toList).bind ofNumber?) <|>
    ofName? (String.ofList (text.toList.map Char.toLower))

end Verbosity

/-- A line of a log. -/
structure LogLine where
  level : LogLevel
  /-- The part of a program that it comes from. -/
  target : String
  message : String
deriving DecidableEq, Repr

end Vigil
