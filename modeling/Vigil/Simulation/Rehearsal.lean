import Vigil.Item.Basic
import Vigil.Check.Program

/-!
# Rehearsed probes

A rehearsed probe follows a plan: one act for each check of its item, the last
one for all checks that come later. Besides what its act says it counts its
checks under the key `runs`. A rehearsal knows the plans of items and how often
each was checked.
-/

namespace Vigil

/-- What a rehearsed probe does between its first edits and its last ones. -/
inductive Interlude where
  | none
  | crash (message : String)
  /-- Waits at the gate of its item. -/
  | block
  | sleep (d : Duration)

/-- What a rehearsed probe does in one check. -/
structure Act where
  set : List (String × Reading)
  remove : List String
  interlude : Interlude
  setAfter : List (String × Reading)
  outcome : Outcome
  /-- Whether the script of the item decides about the outcome. -/
  scripted : Bool

namespace Act

/-- Nothing but a pass. -/
def pass : Act := ⟨[], [], .none, [], .pass, false⟩

/-- The act for a check, counted from zero. -/
def ofPlan (plan : List Act) (check : Nat) : Act :=
  (plan[check]? <|> plan.getLast?).getD pass

def setAll (readings : List (String × Reading)) : List Edit := readings.map fun (k, r) => .set k r

/-- The end of an act. -/
def ending (a : Act) (script : String) : Ending :=
  if a.scripted then .judged script a.outcome else .outcome a.outcome

/-- The program of an act that starts with the given readings. -/
def program (a : Act) (script : String) (m : Readings) : Program :=
  let runs := (m.number? "runs").getD 0.0 + 1.0
  let last := Program.edits (setAll a.setAfter) (.finish (a.ending script))
  Program.edits (.set "runs" (.number runs) :: setAll a.set ++ a.remove.map .remove) <|
    match a.interlude with
    | .none => last
    | .crash message => .finish (.crash message)
    | .block => .await last
    | .sleep d => .sleep d last

end Act

/-- Plans of items, and how many checks of them have begun. -/
structure Rehearsal where
  plans : List (Uuid × List Act)
  checks : List (Uuid × Nat)

namespace Rehearsal

def checksOf (r : Rehearsal) (id : Uuid) : Nat := (r.checks.lookup id).getD 0

/-- What the probe does in the next check of an item, which is counted. -/
def program (item : Item) (r : Rehearsal) : Program × Rehearsal :=
  let plan := (r.plans.lookup item.id).getD []
  let count := r.checksOf item.id
  ((Act.ofPlan plan count).program item.settings.script item.progress.readings,
    { r with checks := (item.id, count + 1) :: r.checks.filter (·.1 != item.id) })

end Rehearsal

end Vigil
