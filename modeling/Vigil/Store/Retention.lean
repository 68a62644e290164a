import Vigil.Store.Basic

/-!
# Retention

History and events are kept for a number of days each; what is older is dropped.
Items are never dropped.
-/

namespace Vigil

/-- How long records are kept, and how often old ones are dropped. -/
structure Retention where
  historyDays : Int
  eventDays : Int
  interval : Duration
deriving DecidableEq, Repr

namespace Retention

def standard : Retention := ⟨30, 90, .ofSeconds 3600⟩

/-- The time that lies a number of days before `now`. -/
def cutoff? (days : Int) (now : Time) : Option Time :=
  (Span.ofDays? days).bind fun s => now.add? (-s)

/-- The times before which history and events are dropped. -/
def cutoffs? (r : Retention) (now : Time) : Option (Time × Time) := do
  return (← cutoff? r.historyDays now, ← cutoff? r.eventDays now)

/-- Drops the records that are too old at a time, and counts them. It is `none`
if a cut-off lies outside of the times. -/
def cleanup? {σ : Type} [Store σ] (r : Retention) (now : Time) : Option (Access σ Nat) :=
  (r.cutoffs? now).map fun (history, events) => Store.purgeBefore history events

end Retention

end Vigil
