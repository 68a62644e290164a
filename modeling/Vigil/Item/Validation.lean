import Vigil.Item.Basic
import Vigil.Text.Blank
import Vigil.Probe.Registry
import Vigil.Probe.Target

/-!
# Valid items

What an item must be like before it is added. The engine itself runs items of
any kind. Targets are checked for the probes that are always there; what others
are aimed at is their own business.
-/

namespace Vigil

/-- Why an item is not valid. -/
inductive ItemError where
  | emptyName
  | intervalTooShort (seconds : UInt64)
  | intervalTooLong (seconds : UInt64)
  | timeoutTooShort (seconds : UInt64)
  | timeoutTooLong (seconds : UInt64)
  | retryTooHigh (retry : UInt32)
  | target (e : TargetError)
deriving DecidableEq, Repr

namespace Validation

def minInterval : UInt64 := 10

/-- A day. -/
def maxInterval : UInt64 := 86400

def minTimeout : UInt64 := 1

def maxTimeout : UInt64 := 300

def maxRetry : UInt32 := 10

end Validation

namespace ItemError

open Validation

def message : ItemError → String
  | emptyName => "Item name must not be empty"
  | intervalTooShort n => "Check interval too short: " ++ toString n ++ " seconds (minimum: " ++
    toString minInterval ++ ")"
  | intervalTooLong n => "Check interval too long: " ++ toString n ++ " seconds (maximum: " ++
    toString maxInterval ++ ")"
  | timeoutTooShort n => "Timeout too short: " ++ toString n ++ " seconds (minimum: " ++
    toString minTimeout ++ ")"
  | timeoutTooLong n => "Timeout too long: " ++ toString n ++ " seconds (maximum: " ++
    toString maxTimeout ++ ")"
  | retryTooHigh n => "Retry count too high: " ++ toString n ++ " (maximum: " ++
    toString maxRetry ++ ")"
  | target e => e.message

end ItemError

namespace Validation

def checkName (name : String) : Except ItemError Unit :=
  if Text.blank name then .error .emptyName else .ok ()

def checkInterval (seconds : UInt64) : Except ItemError Unit :=
  if seconds < minInterval then .error (.intervalTooShort seconds)
  else if seconds > maxInterval then .error (.intervalTooLong seconds)
  else .ok ()

def checkTimeout (seconds : UInt64) : Except ItemError Unit :=
  if seconds < minTimeout then .error (.timeoutTooShort seconds)
  else if seconds > maxTimeout then .error (.timeoutTooLong seconds)
  else .ok ()

def checkRetry (retry : UInt32) : Except ItemError Unit :=
  if retry > maxRetry then .error (.retryTooHigh retry) else .ok ()

/-- Checks the target of a probe by its tag. -/
def checkTarget (target tag : String) : Except ItemError Unit :=
  let checked {α : Type} (r : Except TargetError α) : Except ItemError Unit :=
    match r with
    | .ok _ => .ok ()
    | .error e => .error (.target e)
  match Registry.builtin[tag]? with
  | some .http => checked (Target.web target)
  | some .tcp => checked (Target.socket target)
  | none => .ok ()

/-- Checks all of an item's settings; the first defect counts. -/
def checkItem (s : Settings) : Except ItemError Unit := do
  checkName s.name
  checkInterval s.intervalSeconds
  checkTimeout s.timeoutSeconds
  checkRetry s.retry
  checkTarget s.target s.probe

end Validation

end Vigil
