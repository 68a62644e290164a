import Vigil.Check.Program
import Vigil.Store.Basic
import Vigil.Files.Tree

/-!
# Dispatches

A dispatch is one check of an item with all that follows from it. When the check
has come to its end, `settle` finds the new progress of the item, and lists the
effects that follow: what is logged, marked, kept and exported, and last the
item itself. Each effect is attempted whether or not those before it failed, and
none of them changes what the dispatch found.
-/

namespace Vigil

/-- What a dispatch found. -/
structure Report where
  item : Uuid
  outcome : Outcome
  transition : Option Transition
deriving DecidableEq

/-- A receiver of snapshots. -/
class Exporter (σ : Type) where
  accept : Snapshot → σ → Except FileError Unit × σ

/-- Why an effect did not come about. -/
inductive EffectError where
  | store (e : StoreError)
  | exporter (e : FileError)
deriving DecidableEq, Repr

/-- Something that a dispatch brings about. -/
inductive Effect where
  /-- Looks up the name of a node, for the event that follows. -/
  | findNode (node : Uuid)
  /-- Appends an event; without a name its subject has the name that was found. -/
  | logEvent (category level : String) (subject : Uuid) (name : Option String) (message : String)
  | markNode (node : Uuid)
  | keepHistory (r : HistoryRecord)
  | handOver (s : Snapshot)
  | persist (i : Item)

namespace Effect

variable {σ : Type} [Store σ] [Directory σ] [Exporter σ]

/-- An operation of the store as an effect, after which the name is the same. -/
def ofAccess (found : String) (a : Access σ Unit) (s : σ) : Except EffectError String × σ :=
  match a s with
  | (.ok (), t) => (.ok found, t)
  | (.error e, t) => (.error (.store e), t)

/-- Attempts an effect at a time. A success gives the name of the node that was
looked up last; it is empty if there is no such node. -/
def attempt (now : Time) (found : String) (s : σ) : Effect → Except EffectError String × σ
  | findNode node =>
    match (Directory.nodeName? node : Access σ _) s with
    | (.ok name, t) => (.ok (name.getD ""), t)
    | (.error e, t) => (.error (.store e), t)
  | logEvent category level subject name message =>
    ofAccess found
      (Store.appendEvent ⟨now, category, level, subject, name.getD found, message⟩) s
  | markNode node => ofAccess found (Directory.markChanged node now) s
  | keepHistory r => ofAccess found (Store.appendHistory r) s
  | handOver x =>
    match Exporter.accept x s with
    | (.ok (), t) => (.ok found, t)
    | (.error e, t) => (.error (.exporter e), t)
  | persist i => ofAccess found (Store.update i) s

/-- Attempts an effect, and goes on with the name so far if it fails. -/
def perform (now : Time) (found : String) (s : σ) (e : Effect) : String × σ :=
  match e.attempt now found s with
  | (.ok name, t) => (name, t)
  | (.error _, t) => (found, t)

/-- Attempts effects one after another. -/
def performAll (now : Time) (found : String) (s : σ) : List Effect → String × σ
  | [] => (found, s)
  | e :: es =>
    let (found, s) := e.perform now found s
    performAll now found s es

@[simp] theorem performAll_nil (now : Time) (found : String) (s : σ) :
    performAll now found s [] = (found, s) := rfl

theorem performAll_cons (now : Time) (found : String) (s : σ) (e : Effect) (es : List Effect) :
    performAll now found s (e :: es) =
      performAll now (e.perform now found s).1 (e.perform now found s).2 es := rfl

end Effect

namespace Dispatch

/-- The outcome that a conclusion stands for, and the readings of the item. -/
def interpret (item : Item) : Conclusion → Outcome × Readings
  | .unknownProbe =>
    (.indeterminate,
      item.progress.readings.setError ("unknown probe type: " ++ item.settings.probe))
  | .finished o m => (o, m)
  | .crashed message m => (.indeterminate, m.setError ("probe panicked: " ++ message))
  | .overran budget m =>
    (.indeterminate,
      m.setError ("probe exceeded its time budget of " ++ toString budget.seconds ++ "s"))

/-- The event about a probe that broke down. -/
def crashEffects (item : Item) : Conclusion → List Effect
  | .crashed message _ =>
    [.logEvent Event.system "error" item.id (some item.settings.name)
      ("Probe " ++ item.settings.probe ++ " crashed: " ++ message)]
  | _ => []

/-- The text of an event about a transition. -/
def announcement (item : Item) (t : Transition) : String :=
  item.settings.name ++ " " ++ item.settings.probe ++ ": " ++ t.before.word ++ " -> " ++
    t.after.word ++
    match item.progress.readings.error? with
    | some error => " (" ++ error ++ ")"
    | none => ""

/-- The effects of a transition that is reported. -/
def announceEffects (item : Item) : Option Transition → List Effect
  | none => []
  | some t =>
    if t.announced then
      [.findNode item.settings.node,
        .logEvent Event.polling t.after.word item.id none (announcement item t),
        .markNode item.settings.node]
    else []

/-- The records that the log mode of an item asks for. -/
def recordEffects (item : Item) (changed : Bool) (time : Time) : List Effect :=
  (if item.settings.logMode.records changed then
    [.keepHistory ⟨item.id, time, item.progress.state, item.progress.readings⟩] else []) ++
  (if item.settings.logMode.exports then [.handOver (.ofItem item time)] else [])

/-- The item after a check, and what was found. -/
def conclude (item : Item) (c : Conclusion) : Item × Report :=
  let (outcome, readings) := interpret item c
  let (state, transition) := item.progress.state.apply outcome item.settings.level
  ({ item with progress := { item.progress with readings, state } },
    ⟨item.id, outcome, transition⟩)

/-- All that follows from a check that ended at `now`, in order. The records bear
the time at which the item was scheduled. -/
def settle (item : Item) (c : Conclusion) (now : Time) : Report × List Effect :=
  let (after, report) := conclude item c
  (report, crashEffects item c ++ announceEffects after report.transition ++
    recordEffects after report.transition.isSome (item.progress.lastRun.getD now) ++
    [.persist after])

variable {σ : Type} [Store σ] [Directory σ] [Exporter σ]

/-- Ends a dispatch: the report, and the state after all effects. -/
def finish (item : Item) (c : Conclusion) (now : Time) (s : σ) : Report × σ :=
  let (report, effects) := settle item c now
  (report, (Effect.performAll now "" s effects).2)

end Dispatch

end Vigil
