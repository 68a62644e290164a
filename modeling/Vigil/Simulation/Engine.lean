import Vigil.Simulation.Rehearsal
import Vigil.Simulation.Service
import Vigil.Store.Memory

/-!
# An engine with rehearsed probes

This engine works on a store in memory. Its probe `fake` is a rehearsed one; the
builtin probes may be there too, in a network where nothing listens.
-/

namespace Vigil

/-- The engine with what its probes work on. -/
abbrev Engine := Bench MemoryStore (Rehearsal × Network)

namespace Engine

/-- What the probe of an item does. -/
def probe (builtin : Bool) (item : Item) :
    Option (Rehearsal × Network → Program × (Rehearsal × Network)) :=
  if item.settings.probe = "fake" then
    some fun (rehearsal, network) =>
      let (p, rehearsal) := rehearsal.program item
      (p, rehearsal, network)
  else if builtin then
    (Service.probe item).map fun run (rehearsal, network) =>
      let (p, network) := run network
      (p, rehearsal, network)
  else none

/-- An engine for items with their plans. -/
def build (timing : Timing) (wall : Time) (store : MemoryStore) (exporter : ExporterKind)
    (builtin : Bool) (items : List (Item × List Act)) : Engine :=
  let store := items.foldl (fun s (i, _) => s.put i) store
  let plans := items.reverse.map fun (i, plan) => (i.id, plan)
  Bench.start timing wall (World.start store .empty exporter)
    (⟨plans, []⟩, Network.start 0 [] .zero) (probe builtin)

/-- The engine with another store behind its faults. -/
def withStore (e : Engine) (f : FaultyStore MemoryStore → FaultyStore MemoryStore) : Engine :=
  e.withWorld { e.shared.world with store := f e.shared.world.store }

/-- Switches the store off or on. -/
def switchStore (off : Bool) (e : Engine) : Engine :=
  withStore e fun s => { s with inner := { s.inner with switchedOff := off } }

/-- Lets an operation run after the next listing of the items. -/
def afterListing (run : Access MemoryStore Unit) (e : Engine) : Engine :=
  withStore e fun s => { s with afterItems := s.afterItems ++ [run] }

end Engine

end Vigil
