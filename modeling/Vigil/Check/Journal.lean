import Vigil.Time.Length
import Vigil.Text.Quoted
import Vigil.Log.Level
import Vigil.Check.Dispatch

/-!
# The journal of dispatches

What the log says about a dispatch. The journal only reports: it is worked out
from the same data as the dispatch itself, and nothing follows from it.
-/

namespace Vigil

namespace LogLine

/-- A line that comes from the service itself. -/
def ofService (level : LogLevel) (message : String) : LogLine := ⟨level, "netwatch", message⟩

def info (message : String) : LogLine := ofService .info message

def warn (message : String) : LogLine := ofService .warn message

def error (message : String) : LogLine := ofService .error message

end LogLine

/-- The text of an error in the log, as far as it is known. -/
def StoreError.text (e : StoreError) : String := e.message?.getD "database error"

def EffectError.text : EffectError → String
  | store e => e.text
  | exporter e => e.message

/-- What is said about the end of a check. -/
def Conclusion.lines (item : Item) : Conclusion → List LogLine
  | unknownProbe =>
    [.warn ("Item " ++ item.id.text ++ " has unknown probe type " ++
      Text.quoted item.settings.probe)]
  | finished _ _ => []
  | crashed message _ =>
    [.error ("Probe " ++ item.settings.probe ++ " panicked on item " ++ item.id.text ++ ": " ++
      message)]
  | overran budget _ =>
    [.warn ("Probe " ++ item.settings.probe ++ " exceeded " ++ budget.text ++ " on item " ++
      item.id.text)]

namespace Effect

/-- What is said about an effect before it is attempted. -/
def announcement (found : String) : Effect → List LogLine
  | logEvent _ _ _ none message => [.info (found ++ " " ++ message)]
  | _ => []

/-- What is said about an effect that failed. -/
def complaint (error : String) : Effect → LogLine
  | findNode node => .warn ("Node lookup failed for " ++ node.text ++ ": " ++ error)
  | logEvent _ _ subject _ _ =>
    .error ("Failed to append event log for " ++ subject.text ++ ": " ++ error)
  | markNode node => .warn ("Failed to mark node " ++ node.text ++ " changed: " ++ error)
  | keepHistory r => .error ("Failed to append history for " ++ r.item.text ++ ": " ++ error)
  | handOver x => .warn ("Result export failed for " ++ x.item.text ++ ": " ++ error)
  | persist i => .error ("Failed to persist item " ++ i.id.text ++ " after dispatch: " ++ error)

variable {σ : Type} [Store σ] [Directory σ] [Exporter σ]

/-- What is said about effects that are attempted one after another. -/
def lines (now : Time) (found : String) (s : σ) : List Effect → List LogLine
  | [] => []
  | e :: es =>
    let failure := match (e.attempt now found s).1 with
      | .ok _ => []
      | .error error => [e.complaint error.text]
    let next := e.perform now found s
    e.announcement found ++ failure ++ lines now next.1 next.2 es

end Effect

end Vigil
