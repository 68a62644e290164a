import Vigil.Item.Basic

/-!
# Records of checks

A check may leave a history record of its item, an event, and a snapshot for the
exporter.
-/

namespace Vigil

/-- What a check found about an item. -/
structure HistoryRecord where
  item : Uuid
  time : Time
  state : HealthState
  readings : Readings
deriving Inhabited

/-- A change of health, or something unusual about the program itself. -/
structure Event where
  time : Time
  category : String
  level : String
  subject : Uuid
  subjectName : String
  message : String
deriving DecidableEq, Inhabited

/-- The category of events about changes of health. -/
def Event.polling : String := "polling"

/-- The category of events about the program itself. -/
def Event.system : String := "system"

/-- What is handed to the exporter after a check. -/
structure Snapshot where
  item : Uuid
  node : Uuid
  name : String
  probe : String
  logMode : LogMode
  time : Time
  state : HealthState
  readings : Readings
deriving Inhabited

def Snapshot.ofItem (item : Item) (time : Time) : Snapshot where
  item := item.id
  node := item.settings.node
  name := item.settings.name
  probe := item.settings.probe
  logMode := item.settings.logMode
  time := time
  state := item.progress.state
  readings := item.progress.readings

end Vigil
