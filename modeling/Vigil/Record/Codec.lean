import Vigil.Record.Basic
import Vigil.Reading.Codec
import Vigil.Time.Rfc3339

/-!
# Items and records as JSON

Each is an object with its fields in a fixed order. It is read from an object
with the fields in any order, or from an array of their values.
-/

namespace Vigil

namespace Json

/-- The value that an optional value is; null if there is none. -/
def ofOption {α : Type} (write : α → Json) : Option α → Json
  | some a => write a
  | none => null

def uuid? (v : Json) : Option Uuid := v.text?.bind Uuid.ofText?

def time? (v : Json) : Option Time := v.text?.bind Time.ofText?

def level? (v : Json) : Option Level := v.word?.bind fun w => (Level.ofWord w).toOption

/-- A log mode; the empty word is no name of one here. -/
def logMode? (v : Json) : Option LogMode :=
  v.word?.bind fun w => if w = "" then none else (LogMode.ofWord w).toOption

def state? (v : Json) : Option HealthState :=
  v.text?.bind fun w => (HealthState.ofWord w).toOption

def word64? (v : Json) : Option UInt64 := (v.nat? UInt64.size).map UInt64.ofNat

def word32? (v : Json) : Option UInt32 := (v.nat? UInt32.size).map UInt32.ofNat

end Json

open Json (uuid? time? level? logMode? state? word64? word32?)

namespace Item

def fieldNames : List String :=
  ["id", "node_id", "name", "probe_type", "target", "params", "mode", "script",
    "interval_seconds", "timeout_seconds", "retry", "level", "log_mode", "enabled", "next_due",
    "last_run", "result", "state"]

def json (i : Item) : Json :=
  let s := i.settings
  let p := i.progress
  .object (fieldNames.zip [
    .text i.id.text, .text s.node.text, .text s.name, .text s.probe, .text s.target,
    .text s.params, .text s.mode, .text s.script,
    .ofNat s.intervalSeconds.toNat, .ofNat s.timeoutSeconds.toNat, .ofNat s.retry.toNat,
    .text s.level.word, .text s.logMode.word, .bool s.enabled,
    .text p.nextDue.text, .ofOption (fun t => .text t.text) p.lastRun,
    p.readings.json, .text p.state.word])

def ofJson? (v : Json) : Option Item := do
  match ← v.fields? fieldNames with
  | [some id, some node, some name, some probe, some target, some params, some mode, some script,
      some interval, some timeout, some retry, some level, some logMode, some enabled,
      some nextDue, lastRun, some result, some state] =>
    return {
      id := ← uuid? id
      settings := {
        node := ← uuid? node
        name := ← name.text?
        probe := ← probe.text?
        target := ← target.text?
        params := ← params.text?
        mode := ← mode.text?
        script := ← script.text?
        intervalSeconds := ← word64? interval
        timeoutSeconds := ← word64? timeout
        retry := ← word32? retry
        level := ← level? level
        logMode := ← logMode? logMode
        enabled := ← enabled.bool? }
      progress := {
        nextDue := ← time? nextDue
        lastRun := ← (lastRun.getD .null).optional? time?
        readings := ← Readings.ofJson? result
        state := ← state? state } }
  | _ => none

end Item

namespace HistoryRecord

def fieldNames : List String := ["item_id", "time", "state", "result"]

def json (r : HistoryRecord) : Json :=
  .object (fieldNames.zip [.text r.item.text, .text r.time.text, .text r.state.word,
    r.readings.json])

def ofJson? (v : Json) : Option HistoryRecord := do
  match ← v.fields? fieldNames with
  | [some item, some time, some state, some result] =>
    return ⟨← uuid? item, ← time? time, ← state? state, ← Readings.ofJson? result⟩
  | _ => none

end HistoryRecord

namespace Event

def fieldNames : List String :=
  ["time", "category", "level", "subject_id", "subject_name", "message"]

def json (e : Event) : Json :=
  .object (fieldNames.zip [.text e.time.text, .text e.category, .text e.level,
    .text e.subject.text, .text e.subjectName, .text e.message])

def ofJson? (v : Json) : Option Event := do
  match ← v.fields? fieldNames with
  | [some time, some category, some level, some subject, some name, some message] =>
    return ⟨← time? time, ← category.text?, ← level.text?, ← uuid? subject, ← name.text?,
      ← message.text?⟩
  | _ => none

end Event

namespace Snapshot

def fieldNames : List String :=
  ["item_id", "node_id", "name", "probe_type", "log_mode", "time", "state", "result"]

def json (s : Snapshot) : Json :=
  .object (fieldNames.zip [.text s.item.text, .text s.node.text, .text s.name, .text s.probe,
    .text s.logMode.word, .text s.time.text, .text s.state.word, s.readings.json])

def ofJson? (v : Json) : Option Snapshot := do
  match ← v.fields? fieldNames with
  | [some item, some node, some name, some probe, some logMode, some time, some state,
      some result] =>
    return ⟨← uuid? item, ← uuid? node, ← name.text?, ← probe.text?, ← logMode? logMode,
      ← time? time, ← state? state, ← Readings.ofJson? result⟩
  | _ => none

end Snapshot

end Vigil
