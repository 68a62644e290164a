import Vigil.Reading.Basic
import Vigil.Time.Basic

/-!
# Counters

A counter only grows until it starts again from zero. `record` compares a new
value with the one recorded before, under a key of the readings, and keeps the
new value together with the clock at which it was read. The numbers may be of
any type with the operations of `Quantity`.
-/

namespace Vigil

/-- What is done with the values of counters and clocks. -/
class Quantity (ν : Type) extends ReadableNumber ν where
  minus : ν → ν → ν
  quotient : ν → ν → ν
  below : ν → ν → Bool
  zero : ν
  isFinite : ν → Bool
  /-- A number of milliseconds, in seconds. -/
  secondsOfMillis : Int → ν

instance : Quantity Float where
  minus := (· - ·)
  quotient := (· / ·)
  below x y := x < y
  zero := 0.0
  isFinite x := x.isFinite
  secondsOfMillis m := Float.ofInt m / 1000.0

/-- The clock at which a counter was read. Wall clocks count in whole
milliseconds; an uptime is in seconds and starts again with its device. -/
inductive Clock (ν : Type := Float) where
  | wall (time : Time)
  | uptime (seconds : ν)

/-- What a new value of a counter says. -/
inductive Sample (ν : Type := Float) where
  /-- There was no value before. -/
  | baseline
  /-- The counter started again. -/
  | reset
  /-- The counter grew by `delta`. -/
  | advanced (delta : ν) (rate : Option ν)

namespace Sample

variable {ν : Type} [Quantity ν]

/-- The growth of the counter; nothing is known about it but after an advance. -/
def delta : Sample ν → ν
  | advanced d _ => d
  | _ => Quantity.zero

def rate? : Sample ν → Option ν
  | advanced _ r => r
  | _ => none

def word : Sample ν → String
  | baseline => "baseline"
  | reset => "reset"
  | advanced _ _ => "advanced"

end Sample

namespace Counter

open Quantity

variable {ν : Type} [Quantity ν]

/-- The growth in a second, if time has passed. -/
def rate? (delta elapsed : ν) : Option ν :=
  if below zero elapsed && isFinite delta then some (quotient delta elapsed) else none

/-- What `current` says after `previous`. -/
def sample (previous : Option ν) (current : ν) (elapsed : Option ν) : Sample ν :=
  match previous with
  | none => .baseline
  | some p =>
    let d := minus current p
    if below d zero then .reset else .advanced d (elapsed.bind (rate? d))

/-- The clock of a reading, in seconds. -/
def seconds : Clock ν → ν
  | .wall t => secondsOfMillis t.millis
  | .uptime s => s

/-- The key under which the clock of a counter is kept. -/
def clockKey (key : String) : String := key ++ ".clock"

/-- Whether a clock that moved by `elapsed` shows that its device started again. -/
def restarted (clock : Clock ν) (elapsed : Option ν) : Bool :=
  match clock with
  | .wall _ => false
  | .uptime _ => elapsed.any (below · zero)

/-- Records a new value of a counter. -/
def record (m : Readings ν) (key : String) (current : ν) (clock : Clock ν) :
    Sample ν × Readings ν :=
  let now := seconds clock
  let elapsed := (m.number? (clockKey key)).map (minus now ·)
  let found := match sample (m.number? key) current elapsed with
    | .advanced d r => if restarted clock elapsed then .reset else .advanced d r
    | s => s
  (found, (m.setNumber key current).setNumber (clockKey key) now)

end Counter

end Vigil
