import Vigil.Scheduler.Timing
import Vigil.Store.Retention

/-!
# The configuration

What the service as a whole goes by: its database, its timing, how long records
are kept, where results are exported to and how much is logged.
-/

namespace Vigil

/-- The database file, and how many connections are kept open. -/
structure DatabaseConfig where
  path : String
  poolSize : UInt64
deriving DecidableEq, Repr

structure SchedulerConfig where
  tickSeconds : UInt64
  lookaheadSeconds : UInt64
  staggerMillis : UInt64
  shutdownGraceSeconds : UInt64
  /-- What a check may take on top of its attempts. -/
  budgetGraceSeconds : UInt64
deriving DecidableEq, Repr

structure RetentionConfig where
  historyDays : Int64
  eventLogDays : Int64
  intervalSeconds : UInt64
deriving DecidableEq, Repr

/-- The configuration of the service. -/
structure Config where
  database : DatabaseConfig
  scheduler : SchedulerConfig
  retention : RetentionConfig
  /-- The file that receives the results of the items that export them. -/
  exportPath : Option String
  logLevel : String
deriving DecidableEq, Repr

def DatabaseConfig.standard : DatabaseConfig := ⟨"netwatch.db", 8⟩

def SchedulerConfig.standard : SchedulerConfig := ⟨30, 30, 5, 30, 5⟩

def RetentionConfig.standard : RetentionConfig := ⟨30, 90, 3600⟩

namespace Config

def standard : Config := ⟨.standard, .standard, .standard, none, "info"⟩

/-- A number of seconds that is at least one. -/
def atLeastOne (seconds : UInt64) : Duration := .ofSeconds (max seconds.toNat 1)

/-- The timing of the scheduler. -/
def timing (c : Config) : Timing where
  tickPeriod := atLeastOne c.scheduler.tickSeconds
  lookahead := .ofSeconds c.scheduler.lookaheadSeconds.toNat
  stagger := .ofMillis c.scheduler.staggerMillis.toNat
  shutdownGrace := .ofSeconds c.scheduler.shutdownGraceSeconds.toNat
  budgetGrace := .ofSeconds c.scheduler.budgetGraceSeconds.toNat

/-- How long records are kept. -/
def retentionPolicy (c : Config) : Retention where
  historyDays := c.retention.historyDays.toInt
  eventDays := c.retention.eventLogDays.toInt
  interval := atLeastOne c.retention.intervalSeconds

/-- The configuration for people to read. -/
def summary (c : Config) : String :=
  let line (label value : String) : String := "    " ++ label ++ ": " ++ value ++ "\n"
  "Current Internal Configuration State:\n" ++
  "  Database\n" ++
  line "Path" c.database.path ++
  line "Pool Size" (toString c.database.poolSize) ++
  "  Scheduler\n" ++
  line "Tick (s)" (toString c.scheduler.tickSeconds) ++
  line "Lookahead (s)" (toString c.scheduler.lookaheadSeconds) ++
  line "Stagger (ms)" (toString c.scheduler.staggerMillis) ++
  line "Shutdown Grace (s)" (toString c.scheduler.shutdownGraceSeconds) ++
  line "Budget Grace (s)" (toString c.scheduler.budgetGraceSeconds) ++
  "  Retention\n" ++
  line "History (days)" (toString c.retention.historyDays) ++
  line "Event Log (days)" (toString c.retention.eventLogDays) ++
  line "Interval (s)" (toString c.retention.intervalSeconds) ++
  "  Export\n" ++
  line "Path" (c.exportPath.getD "(disabled)") ++
  "  Logging\n" ++
  line "Level" c.logLevel

end Config

end Vigil
