import Vigil.Script.Split
import Vigil.Script.Value
import Vigil.Health.State

/-!
# Scripts

A script decides about readings. It is a disjunction of conjunctions of clauses;
a clause is one operand, or two with a comparison between them. `evaluate` gives
its truth, or the error of the leftmost clause that has no value: no clause is
left out, whatever the clauses before it say.
-/

namespace Vigil.Script

/-- Whether a character may stand in a name. -/
def isNameChar (c : Char) : Bool := c.isAlphanum || c == '_' || c == '.'

/-- The value of an operand. -/
def operand (readings : Readings) (raw : List Char) : Except ScriptError Value :=
  match raw with
  | [] => .error (.malformed .missingOperand)
  | '"' :: rest =>
    if rest.getLast? = some '"' then .ok (.text (String.ofList rest.dropLast))
    else .error (.malformed (.unterminatedText (String.ofList raw)))
  | _ =>
    let name := String.ofList raw
    if name = "true" then .ok (.bool true)
    else if name = "false" then .ok (.bool false)
    else
      match Decimal.readFloat? raw with
      | some x => .ok (.number x)
      | none =>
        if raw.all isNameChar then
          match readings[name]? with
          | some r => .ok (.ofReading r)
          | none => .error (.unknownVariable name)
        else .error (.malformed (.invalidOperand name))

/-- The truth of a clause without blanks around it. -/
def clause (readings : Readings) (s : List Char) : Except ScriptError Bool :=
  if s.isEmpty then .error (.malformed .emptyClause)
  else
    match Comparison.find? false s with
    | none => do (← operand readings s).truth
    | some (left, op, right) => do
      let l ← operand readings (Text.trim left)
      let r ← operand readings (Text.trim right)
      op.apply l r

/-- The truth of clauses joined by `&&`. -/
def conjunction (readings : Readings) (s : List Char) : Except ScriptError Bool := do
  let truths ← (splitDoubled '&' s).mapM fun c => clause readings (Text.trim c)
  return truths.all id

/-- The truth of a script. -/
def evaluate (readings : Readings) (script : String) : Except ScriptError Bool :=
  let s := Text.trim script.toList
  if s.isEmpty then .error (.malformed .emptyExpression)
  else do
    let truths ← (splitDoubled '|' s).mapM (conjunction readings)
    return truths.any id

/-- Lets a script decide about readings. Without a script the outcome is `given`;
a script that is true clears the error, and one without a value is itself the
error. -/
def judge (script : String) (readings : Readings) (given : Outcome) : Outcome × Readings :=
  if Text.blank script then (given, readings)
  else
    match evaluate readings script with
    | .ok true => (.pass, readings.clearError)
    | .ok false => (.fail, readings)
    | .error e => (.indeterminate, readings.setError ("script: " ++ e.message))

end Vigil.Script
