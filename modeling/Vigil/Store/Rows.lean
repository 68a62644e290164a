import Vigil.Record.Codec
import Vigil.Store.Schema

/-!
# Items and records as rows

Identifiers and words are kept as texts, readings as JSON text, numbers as
integers of 64 bits and times as whole milliseconds. A row is read column by
column, and the first column that cannot be read gives the error.
-/

namespace Vigil

namespace Cell

def ofTime (t : Time) : Cell := integer t.millis

def ofUuid (u : Uuid) : Cell := text u.text

/-- A word of 64 bits as a signed one. -/
def ofWord64 (w : UInt64) : Cell := integer w.toInt64.toInt

def toWord64 (i : Int) : UInt64 := UInt64.ofInt i

def toWord32 (i : Int) : UInt32 := UInt32.ofInt i

end Cell

namespace StoreError

def ofTimestamp (millis : Int) : Except StoreError Time :=
  match Time.ofMillis? millis with
  | some t => .ok t
  | none => .error (.corrupt (.timestamp millis))

/-- A word of a column, read as one of its words. -/
def readWord {α : Type} (column : String) (r : Except Unrecognised α) : Except StoreError α :=
  match r with
  | .ok a => .ok a
  | .error e => .error (.corrupt (.word column e))

def readUuid (s : String) : Except StoreError Uuid :=
  match Uuid.ofText? s with
  | some u => .ok u
  | none => .error (.corrupt .unreadable)

def readReadings (s : String) : Except StoreError Readings :=
  match Readings.ofText? s with
  | some m => .ok m
  | none => .error (.corrupt .unreadable)

end StoreError

open StoreError

namespace Item

def row (i : Item) : Row :=
  let s := i.settings
  let p := i.progress
  [.ofUuid i.id, .ofUuid s.node, .text s.name, .text s.probe, .text s.target, .text s.params,
    .text s.mode, .text s.script, .ofWord64 s.intervalSeconds, .ofWord64 s.timeoutSeconds,
    .integer s.retry.toNat, .text s.level.word, .text s.logMode.word, .ofBool s.enabled,
    .ofTime p.nextDue, .ofOption (p.lastRun.map Time.millis), .text p.readings.text,
    .text p.state.word]

/-- The row of an item with its progress as in another one. -/
def progressRow (p : Progress) (r : Row) : Row :=
  (((r.set 14 (.ofTime p.nextDue)).set 15 (.ofOption (p.lastRun.map Time.millis))).set 16
    (.text p.readings.text)).set 17 (.text p.state.word)

/-- The row of an item with other times. -/
def scheduleRow (nextDue : Time) (lastRun : Option Time) (r : Row) : Row :=
  (r.set 14 (.ofTime nextDue)).set 15 (.ofOption (lastRun.map Time.millis))

def ofRow : Row → Except StoreError Item
  | [id, node, name, probe, target, params, mode, script, interval, timeout, retry, level, logMode,
      enabled, nextDue, lastRun, readings, state] => do
    let id ← id.text?
    let node ← node.text?
    let level ← level.text?
    let logMode ← logMode.text?
    let lastRun ← lastRun.optionalInteger?
    let readings ← readings.text?
    let state ← state.text?
    let id ← readUuid id
    let node ← readUuid node
    let name ← name.text?
    let probe ← probe.text?
    let target ← target.text?
    let params ← params.text?
    let mode ← mode.text?
    let script ← script.text?
    let interval ← interval.integer?
    let timeout ← timeout.integer?
    let retry ← retry.integer?
    let level ← readWord "level" (Level.ofWord level)
    let logMode ← readWord "log_mode" (LogMode.ofWord logMode)
    let enabled ← enabled.integer?
    let nextDue ← ofTimestamp (← nextDue.integer?)
    let lastRun ← lastRun.mapM ofTimestamp
    let readings ← readReadings readings
    let state ← readWord "state" (HealthState.ofWord state)
    return {
      id
      settings := {
        node, name, probe, target, params, mode, script
        intervalSeconds := Cell.toWord64 interval
        timeoutSeconds := Cell.toWord64 timeout
        retry := Cell.toWord32 retry
        level, logMode
        enabled := enabled != 0 }
      progress := { nextDue, lastRun, readings, state } }
  | _ => .error .query

end Item

namespace HistoryRecord

/-- The cells of a record after its number. -/
def cells (r : HistoryRecord) : Row :=
  [.ofUuid r.item, .ofTime r.time, .text r.state.word, .text r.readings.text]

/-- The record of an item that a row holds. -/
def ofRow (item : Uuid) : Row → Except StoreError HistoryRecord
  | [_, _, time, state, readings] => do
    let state ← state.text?
    let readings ← readings.text?
    let time ← ofTimestamp (← time.integer?)
    let state ← readWord "state" (HealthState.ofWord state)
    let readings ← readReadings readings
    return { item, time, state, readings }
  | _ => .error .query

end HistoryRecord

namespace Event

/-- The cells of an event after its number. -/
def cells (e : Event) : Row :=
  [.ofTime e.time, .text e.category, .text e.level, .ofUuid e.subject, .text e.subjectName,
    .text e.message]

def ofRow : Row → Except StoreError Event
  | [_, time, category, level, subject, subjectName, message] => do
    let subject ← subject.text?
    let time ← ofTimestamp (← time.integer?)
    let category ← category.text?
    let level ← level.text?
    let subject ← readUuid subject
    let subjectName ← subjectName.text?
    let message ← message.text?
    return { time, category, level, subject, subjectName, message }
  | _ => .error .query

end Event

end Vigil
