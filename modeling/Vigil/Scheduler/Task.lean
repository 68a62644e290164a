import Vigil.Scheduler.Tick

/-!
# Dispatches under way

A task carries one dispatch from its launch to its end: it waits out its delay,
checks its item, brings about what follows and is over. A task that was launched
by a tick holds the claim on its item until then. When the scheduler shuts down,
a task that has not begun its check ends without one.
-/

namespace Vigil

/-- How far a dispatch is. -/
inductive Phase where
  /-- Waits until its delay is over. -/
  | delayed (delay : Duration)
  /-- The probe is at work on the readings. -/
  | checking (m : Readings) (p : Program) (budget : Duration)
  /-- Brings about what follows from the check. -/
  | recording (found : String) (effects : List Effect) (report : Report)
  /-- Over; there is no report if the check was not made or could not be timed. -/
  | over (report : Option Report)

/-- A dispatch under way. -/
structure Task where
  item : Item
  /-- The claim that it holds, if it was launched by a tick. -/
  claim : Option Uuid
  phase : Phase

namespace Task

def ofLaunch (l : Launch) : Task := ⟨l.item, some l.claim, .delayed l.delay⟩

/-- A dispatch that no tick has launched. -/
def direct (item : Item) : Task := ⟨item, none, .delayed .zero⟩

/-- Whether it was launched by a tick. -/
def claimed (t : Task) : Bool := t.claim.isSome

def goTo (t : Task) (phase : Phase) : Task := { t with phase }

/-- The task after its check came to an end at `now`. -/
def conclude (t : Task) (c : Conclusion) (now : Time) : Task :=
  let (report, effects) := Dispatch.settle t.item c now
  t.goTo (.recording "" effects report)

/-- The task after its delay. `program` is what the probe of the item will do, if
its tag is known. A launched task ends here when the scheduler is stopping, and
every task does if its budget is out of range. -/
def begin (t : Task) (stopping : Bool) (grace : Duration) (program : Option (Unit → Program))
    (now : Time) : Task :=
  if t.claimed && stopping then t.goTo (.over none)
  else match program with
    | none => t.conclude .unknownProbe now
    | some p =>
      match t.item.settings.budget? grace with
      | none => t.goTo (.over none)
      | some budget => t.goTo (.checking t.item.progress.readings (p ()) budget)

variable {σ : Type} [Store σ] [Directory σ] [Exporter σ]

/-- Brings about one effect. After the last one the task is over, and the claim
on its item is given back. -/
def recordStep (t : Task) (now : Time) (s : Shared σ) : Task × Shared σ :=
  match t.phase with
  | .recording _ [] report => (t.goTo (.over (some report)), s)
  | .recording found (e :: es) report =>
    let (found, world) := e.perform now found s.world
    (t.goTo (.recording found es report), { s with world })
  | _ => (t, s)

/-- Brings about all effects that are left. -/
def record (t : Task) (now : Time) (s : Shared σ) : Task × Shared σ :=
  match t.phase with
  | .recording found es report =>
    (t.goTo (.over (some report)), { s with world := (Effect.performAll now found s.world es).2 })
  | _ => (t, s)

omit [Store σ] [Directory σ] [Exporter σ] in
/-- Gives the claim of a task back. -/
def release (t : Task) (s : Shared σ) : Shared σ :=
  match t.claim with
  | some id => { s with claims := s.claims.release id }
  | none => s

end Task

end Vigil
