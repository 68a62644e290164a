import Vigil.Uuid
import Vigil.Time.Basic
import Vigil.Health.State
import Vigil.Health.LogMode
import Vigil.Reading.Basic

/-!
# Monitored items

An item is a target that is checked again and again. Its settings say what is
checked and how; they change only when the item is saved. Its progress says when
it is due, when it last ran and what was found; checks change nothing else.
-/

namespace Vigil

/-- What is checked, and how. -/
structure Settings where
  node : Uuid
  name : String
  /-- The tag of the probe that checks the item. -/
  probe : String
  target : String
  params : String
  mode : String
  script : String
  intervalSeconds : UInt64
  timeoutSeconds : UInt64
  retry : UInt32
  level : Level
  logMode : LogMode
  enabled : Bool
deriving DecidableEq, Inhabited

/-- When an item runs and what its checks have found. -/
structure Progress where
  nextDue : Time
  lastRun : Option Time
  readings : Readings
  state : HealthState
deriving Inhabited

/-- A monitored item. -/
structure Item where
  id : Uuid
  settings : Settings
  progress : Progress
deriving Inhabited

/-- The settings of a new item: it runs every minute, waits two seconds for an
answer, and tries once more. -/
def Settings.standard (node : Uuid) (name probe target : String) : Settings where
  node := node
  name := name
  probe := probe
  target := target
  params := ""
  mode := ""
  script := ""
  intervalSeconds := 60
  timeoutSeconds := 2
  retry := 1
  level := .low
  logMode := .none
  enabled := true

/-- The time between two runs. The seconds are taken as a signed word of 64
bits, so intervals of 2 ^ 63 seconds and more come out negative. The interval is
at least a second otherwise; it fails if it is longer than any span. -/
def Settings.interval? (s : Settings) : Option Span :=
  Span.ofSeconds? (max s.intervalSeconds 1).toInt64.toInt

/-- The time that one attempt may take, at least a second. -/
def Settings.timeout (s : Settings) : Duration :=
  .ofSeconds (max s.timeoutSeconds 1).toNat

/-- The time that a check may take: every attempt its timeout, and `grace` on
top. It fails if the number of attempts does not fit into 32 bits or the time is
longer than any duration. -/
def Settings.budget? (s : Settings) (grace : Duration) : Option Duration :=
  if s.retry.toNat + 1 < UInt32.size then
    (s.timeout.times? (s.retry.toNat + 1)).bind (·.plus? grace)
  else none

/-- The progress of an item before its first check. -/
def Progress.fresh (nextDue : Time) : Progress := ⟨nextDue, none, .empty, .unknown⟩

namespace Item

/-- The due time after a run at `now`: one interval after the later of `now` and
the due time so far. -/
def nextDueAfter? (item : Item) (now : Time) : Option Time := do
  (item.progress.nextDue.max now).add? (← item.settings.interval?)

/-- The item with its due time moved on by a run at `now`. -/
def rearm? (item : Item) (now : Time) : Option Item :=
  (item.nextDueAfter? now).map fun t =>
    { item with progress := { item.progress with nextDue := t } }

/-- The item as its next check finds it after a retest was asked for at `now`: due
since a second ago, and with nothing known about it. -/
def forRetest? (item : Item) (now : Time) : Option Item :=
  (now.add? ⟨-1000000000⟩).map fun t =>
    { item with
      progress := { item.progress with nextDue := t, state := .unknown, readings := .empty } }

/-- Whether an item is to be checked by `horizon`. -/
def isDue (item : Item) (horizon : Time) : Bool :=
  item.settings.enabled && decide (item.progress.nextDue ≤ horizon)

theorem isDue_iff {item : Item} {horizon : Time} :
    item.isDue horizon = true ↔ item.settings.enabled = true ∧ item.progress.nextDue ≤ horizon := by
  simp [isDue]

end Item

end Vigil
