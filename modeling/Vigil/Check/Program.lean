import Vigil.Script.Evaluate
import Vigil.Time.Basic

/-!
# What a probe does

A probe is a program over the readings of an item: it edits them, lets time
pass, waits at a gate until it is let through, and ends with an outcome or
breaks down. `Program.settle` runs the edits at the front of a program, and
`Program.run` runs a program with a budget of time, none of whose gates is
opened.
-/

namespace Vigil

/-- A change of one reading. -/
inductive Edit where
  | set (key : String) (r : Reading)
  | remove (key : String)

def Edit.apply (m : Readings) : Edit → Readings
  | set key r => m.insert key r
  | remove key => m.erase key

/-- What a probe breaks down with. -/
inductive Payload where
  | text (s : String)
  /-- Anything but a text. -/
  | other

/-- The message of a breakdown. -/
def Payload.message : Payload → String
  | text s => s
  | other => "unknown panic payload"

/-- How a probe ends. -/
inductive Ending where
  | outcome (o : Outcome)
  /-- The outcome is what a script makes of the readings, and `given` without
  one. -/
  | judged (script : String) (given : Outcome)
  /-- The probe broke down with a message. -/
  | crash (message : String)

/-- A probe at work. -/
inductive Program where
  | finish (e : Ending)
  | edit (e : Edit) (rest : Program)
  | sleep (d : Duration) (rest : Program)
  /-- Waits at the gate of the item. -/
  | await (rest : Program)

/-- How a check of an item came to its end. -/
inductive Conclusion where
  /-- No probe is known by the tag of the item. -/
  | unknownProbe
  | finished (o : Outcome) (m : Readings)
  | crashed (message : String) (m : Readings)
  /-- The time that the check may take was over. -/
  | overran (budget : Duration) (m : Readings)

def Ending.conclude (m : Readings) : Ending → Conclusion
  | outcome o => .finished o m
  | judged script given =>
    let (o, m) := Script.judge script m given
    .finished o m
  | crash message => .crashed message m

namespace Program

/-- Puts edits in front of a program. -/
def edits (es : List Edit) (rest : Program) : Program := es.foldr edit rest

/-- What a program that has no edit at its front does next. -/
inductive Pause where
  | done (c : Conclusion)
  | sleeping (d : Duration) (rest : Program)
  | atGate (rest : Program)

/-- Runs the edits at the front of a program. -/
def settle (m : Readings) : Program → Readings × Pause
  | finish e => (m, .done (e.conclude m))
  | edit e rest => settle (e.apply m) rest
  | sleep d rest => (m, .sleeping d rest)
  | await rest => (m, .atGate rest)

/-- The end of a program that starts with `budget` left of `total`, and whose
gates stay closed. A program that ends at the very end of its time has ended. -/
def run (total : Duration) (budget : Nat) (m : Readings) : Program → Conclusion
  | finish e => e.conclude m
  | edit e rest => run total budget (e.apply m) rest
  | sleep d rest => if d.nanos ≤ budget then run total (budget - d.nanos) m rest
    else .overran total m
  | await _ => .overran total m

/-- The end of a program that may take as long as `budget`. -/
def conclude (budget : Duration) (m : Readings) (p : Program) : Conclusion :=
  p.run budget budget.nanos m

@[simp] theorem settle_finish (m : Readings) (e : Ending) :
    (finish e).settle m = (m, .done (e.conclude m)) := rfl

@[simp] theorem settle_edit (m : Readings) (e : Edit) (rest : Program) :
    (edit e rest).settle m = rest.settle (e.apply m) := rfl

end Program

end Vigil
