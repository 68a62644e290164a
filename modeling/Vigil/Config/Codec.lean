import Vigil.Config.Basic
import Vigil.Json.Basic
import Vigil.Record.Codec
import Vigil.Toml.Document

/-!
# Reading and writing the configuration

The configuration is read from a JSON or a TOML document; what a document does
not say is as in the standard configuration. It is written as JSON, and as a
TOML document with one table for each section.
-/

namespace Vigil

/-- Documents that a configuration can be read from. -/
class Settled (α : Type) where
  /-- The values of a record with the given field names. -/
  fields? : List String → α → Option (List (Option α))
  text? : α → Option String
  integer? : α → Option Int
  isNull : α → Bool

instance : Settled Json where
  fields? := Json.fields?
  text? := Json.text?
  integer?
    | .number n => n.toInt?
    | _ => none
  isNull
    | .null => true
    | _ => false

instance : Settled Toml where
  fields? := Toml.fields?
  text? := Toml.text?
  integer? := Toml.integer?
  isNull _ := false

namespace Config

/-! ### Reading -/

section Reading

variable {α : Type} [Settled α]

def word64? (v : α) : Option UInt64 :=
  (Settled.integer? v).bind fun i => if 0 ≤ i ∧ i < UInt64.size then some (.ofNat i.toNat) else none

def int64? (v : α) : Option Int64 :=
  (Settled.integer? v).bind fun i =>
    if Int64.minValue.toInt ≤ i ∧ i ≤ Int64.maxValue.toInt then some (.ofInt i) else none

def optionalText? (v : α) : Option (Option String) :=
  if Settled.isNull v then some none else (Settled.text? v).map some

/-- What `read` makes of a value; the default if there is none. -/
def orStandard {β : Type} (read : α → Option β) (standard : β) : Option α → Option β
  | some v => read v
  | none => some standard

def database? (v : α) : Option DatabaseConfig := do
  let d := DatabaseConfig.standard
  match ← Settled.fields? ["path", "pool_size"] v with
  | [path, poolSize] =>
    return ⟨← orStandard Settled.text? d.path path, ← orStandard word64? d.poolSize poolSize⟩
  | _ => none

def scheduler? (v : α) : Option SchedulerConfig := do
  let d := SchedulerConfig.standard
  match ← Settled.fields? ["tick_seconds", "lookahead_seconds", "stagger_ms",
    "shutdown_grace_seconds", "budget_grace_seconds"] v with
  | [tick, lookahead, stagger, shutdownGrace, budgetGrace] =>
    return ⟨← orStandard word64? d.tickSeconds tick,
      ← orStandard word64? d.lookaheadSeconds lookahead,
      ← orStandard word64? d.staggerMillis stagger,
      ← orStandard word64? d.shutdownGraceSeconds shutdownGrace,
      ← orStandard word64? d.budgetGraceSeconds budgetGrace⟩
  | _ => none

def retention? (v : α) : Option RetentionConfig := do
  let d := RetentionConfig.standard
  match ← Settled.fields? ["history_days", "event_log_days", "interval_seconds"] v with
  | [history, eventLog, interval] =>
    return ⟨← orStandard int64? d.historyDays history,
      ← orStandard int64? d.eventLogDays eventLog,
      ← orStandard word64? d.intervalSeconds interval⟩
  | _ => none

def exportPath? (v : α) : Option (Option String) := do
  match ← Settled.fields? ["path"] v with
  | [path] => orStandard optionalText? none path
  | _ => none

def logLevel? (v : α) : Option String := do
  match ← Settled.fields? ["level"] v with
  | [level] => orStandard Settled.text? standard.logLevel level
  | _ => none

/-- The configuration that a document writes. -/
def of? (v : α) : Option Config := do
  match ← Settled.fields? ["database", "scheduler", "retention", "export", "logging"] v with
  | [database, scheduler, retention, results, logging] =>
    return ⟨← orStandard database? .standard database,
      ← orStandard scheduler? .standard scheduler,
      ← orStandard retention? .standard retention,
      ← orStandard exportPath? none results,
      ← orStandard logLevel? standard.logLevel logging⟩
  | _ => none

end Reading

/-- The configuration that a TOML text writes. -/
def ofText? (text : String) : Option Config := (Toml.ofText? text).bind of?

/-! ### Writing -/

def json (c : Config) : Json :=
  let word (n : UInt64) : Json := .ofNat n.toNat
  .object [
    ("database", .object [("path", .text c.database.path),
      ("pool_size", word c.database.poolSize)]),
    ("scheduler", .object [("tick_seconds", word c.scheduler.tickSeconds),
      ("lookahead_seconds", word c.scheduler.lookaheadSeconds),
      ("stagger_ms", word c.scheduler.staggerMillis),
      ("shutdown_grace_seconds", word c.scheduler.shutdownGraceSeconds),
      ("budget_grace_seconds", word c.scheduler.budgetGraceSeconds)]),
    ("retention", .object [("history_days", .ofInt c.retention.historyDays.toInt),
      ("event_log_days", .ofInt c.retention.eventLogDays.toInt),
      ("interval_seconds", word c.retention.intervalSeconds)]),
    ("export", .object [("path", .ofOption .text c.exportPath)]),
    ("logging", .object [("level", .text c.logLevel)])]

/-- The value of a setting. -/
inductive Setting where
  | text (s : String)
  | word (n : UInt64)
  | integer (i : Int64)

/-- The settings of a configuration, by their sections. What is not set is left
out. -/
def sections (c : Config) : List (String × List (String × Setting)) :=
  [("database", [("path", .text c.database.path), ("pool_size", .word c.database.poolSize)]),
    ("scheduler", [("tick_seconds", .word c.scheduler.tickSeconds),
      ("lookahead_seconds", .word c.scheduler.lookaheadSeconds),
      ("stagger_ms", .word c.scheduler.staggerMillis),
      ("shutdown_grace_seconds", .word c.scheduler.shutdownGraceSeconds),
      ("budget_grace_seconds", .word c.scheduler.budgetGraceSeconds)]),
    ("retention", [("history_days", .integer c.retention.historyDays),
      ("event_log_days", .integer c.retention.eventLogDays),
      ("interval_seconds", .word c.retention.intervalSeconds)]),
    ("export", (c.exportPath.map fun path => ("path", Setting.text path)).toList),
    ("logging", [("level", .text c.logLevel)])]

/-- A setting in TOML, which has no whole numbers of more than 63 bits. -/
def Setting.toml? : Setting → Option String
  | text s => some (Toml.writeText s)
  | word n => if n.toNat ≤ Int64.maxValue.toInt then some (toString n.toNat) else none
  | integer i => some (toString i.toInt)

/-- A section in TOML. -/
def sectionToml? (name : String) (settings : List (String × Setting)) : Option String := do
  let lines ← settings.mapM fun (key, v) => return key ++ " = " ++ (← v.toml?) ++ "\n"
  return "[" ++ name ++ "]\n" ++ String.join lines

/-- Sections in TOML, with an empty line between any two. -/
def sectionsToml? (sections : List (String × List (String × Setting))) : Option String := do
  return "\n".intercalate (← sections.mapM fun (name, settings) => sectionToml? name settings)

/-- A configuration in TOML; `none` if it holds a number that is too great. -/
def toml? (c : Config) : Option String := sectionsToml? c.sections

end Config

end Vigil
