import Vigil.Check.Dispatch

/-!
# Verdicts

A check comes to an outcome and leaves readings: this is its verdict. A probe that ends gives an
outcome, or asks a script for one, or breaks down. What a script, a probe or its time fails by is
told under the key of the error. The item is judged by the verdict: it has the readings, and its
health moves by the outcome.
-/

namespace Vigil

/-- What a script makes of the readings. Without a script the outcome is `given`; a script that
holds is a success and clears the error, one that does not hold is a failure, and one that has no
value is neither. -/
def Script.ruling (script : String) (given : Outcome) (m : Readings) : Outcome × Readings :=
  if script.toList.all Text.isBlank then (given, m)
  else
    match Script.evaluate m script with
    | .ok true => (.pass, m.erase "error")
    | .ok false => (.fail, m)
    | .error e => (.indeterminate, m.insert "error" (.text ("script: " ++ e.message)))

theorem Script.judge_eq (script : String) (m : Readings) (given : Outcome) :
    judge script m given = ruling script given m := by
  have hblank : Text.blank script = script.toList.all Text.isBlank := rfl
  unfold judge ruling
  rw [hblank]
  rfl

/-- The verdict of a check that may take as long as `budget`: what the end of the probe, if it came
to one in this time, makes of the readings that its edits have left. -/
def Ending.verdictWithin (budget : Duration) (m : Readings) : Option Ending → Outcome × Readings
  | some (outcome o) => (o, m)
  | some (judged script given) => Script.ruling script given m
  | some (crash message) =>
    (.indeterminate, m.insert "error" (.text ("probe panicked: " ++ message)))
  | none =>
    (.indeterminate, m.insert "error"
      (.text ("probe exceeded its time budget of " ++ toString budget.seconds ++ "s")))

/-- The item after a check that came to a verdict. -/
def Item.judged (i : Item) (v : Outcome × Readings) : Item :=
  { i with
    progress :=
      { i.progress with
        readings := v.2
        state := (i.progress.state.apply v.1 i.settings.level).1 } }

namespace Dispatch

theorem interpret_conclude (item : Item) (budget : Duration) (e : Ending) (m : Readings) :
    interpret item (e.conclude m) = Ending.verdictWithin budget m (some e) := by
  cases e with
  | judged script given => exact Script.judge_eq script m given
  | _ => rfl

theorem conclude_eq (item : Item) (c : Conclusion) :
    (conclude item c).1 = item.judged (interpret item c) ∧
      (conclude item c).2.item = item.id ∧
      (conclude item c).2.outcome = (interpret item c).1 :=
  ⟨rfl, rfl, rfl⟩

end Dispatch

end Vigil
