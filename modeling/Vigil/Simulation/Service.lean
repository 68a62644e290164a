import Vigil.Config.Basic
import Vigil.Simulation.Bench
import Vigil.Simulation.Network

/-!
# The service on a bench

The service drops old records, runs the loop of the scheduler, and ends when it
is told to: then no more checks are launched, and those in flight may end.
-/

namespace Vigil

/-- The service with its store, in a network. -/
abbrev Service (σ : Type) := Bench σ Network

namespace Service

variable {σ : Type}

/-- What the probe of an item does, if it is one that is always there. -/
def probe (item : Item) : Option (Network → Program × Network) :=
  (Registry.builtin[item.settings.probe]?).map fun p => Network.program p item.settings

/-- The service before it starts. -/
def build (c : Config) (wall : Time) (world : World σ) (network : Network) : Service σ :=
  (Bench.start c.timing wall world network probe).note <|
    .info ("Probe types available: " ++ ", ".intercalate Registry.builtin.tags) ::
      match world.exporter with
      | .file path => [.info ("Exporting results to " ++ path)]
      | _ => []

variable [Store σ] [Directory σ] [Listing σ]

/-- Drops the records that are too old by now. -/
def cleanUp (r : Retention) (s : Service σ) : Service σ :=
  match r.cleanup? s.wall with
  | none => s
  | some run =>
    let (dropped, s) := s.onWorld run
    s.note <| match dropped with
      | .ok n => [.info ("Retention cleanup completed: " ++ toString n ++ " records deleted")]
      | .error e => [.warn ("Periodic retention cleanup failed: " ++ e.text)]

/-- Starts the service. -/
def begin (r : Retention) (s : Service σ) : Service σ :=
  (Bench.run (s.cleanUp r)).note [.info "netwatch started"]

/-- Waits until no check is in flight. -/
def waitForChecks (s : Service σ) : Service σ :=
  s.waitUntil (!·.isBusy) [] Bench.rounds

/-- Ends the service. -/
def stop (s : Service σ) : Service σ :=
  (Bench.join (Bench.shutdown (s.note [.info "Shutdown requested"]))).2.note
    [.info "netwatch stopped"]

/-- A whole run of the service, which ends when all checks that were due have been
made: the world after it. -/
def complete (c : Config) (wall : Time) (world : World σ) (network : Network) : World σ :=
  let s := (build c wall world network).begin c.retentionPolicy
  (stop (waitForChecks s)).shared.world

end Service

end Vigil
