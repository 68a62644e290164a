import Vigil.Health.Level

/-!
# Health states

The health of an item changes only by `HealthState.apply`, one step for each
outcome of a check. A step that changes the state is a `Transition`; the only
transition that is not announced is the first success of an item nothing was
known about.
-/

namespace Vigil

/-- What one check says about its target. -/
inductive Outcome where
  | pass
  | fail
  | indeterminate
deriving Repr, DecidableEq

namespace Outcome

def word : Outcome → String
  | pass => "pass"
  | fail => "fail"
  | indeterminate => "indeterminate"

/-- The outcome that a word names. -/
def ofWord? : String → Option Outcome
  | "pass" => some pass
  | "fail" => some fail
  | "indeterminate" => some indeterminate
  | _ => none

@[simp] theorem ofWord?_word (o : Outcome) : ofWord? o.word = some o := by
  cases o <;> rfl

end Outcome

/-- The health of an item. `repaired` is a recovery from a failing state. -/
inductive HealthState where
  | unknown
  | normal
  | repaired
  | failing (level : Level)
deriving Repr, DecidableEq, Inhabited

namespace HealthState

def word : HealthState → String
  | unknown => "unknown"
  | normal => "normal"
  | repaired => "repair"
  | failing l => l.word

/-- The state that a word names; the word of a level names the failing state of
that level. -/
def ofWord (s : String) : Except Unrecognised HealthState :=
  match s with
  | "unknown" => .ok unknown
  | "normal" => .ok normal
  | "repair" => .ok repaired
  | _ => (Level.ofWord s).map failing

@[simp] theorem ofWord_word (s : HealthState) : ofWord s.word = .ok s := by
  cases s with
  | failing l => cases l <;> rfl
  | _ => rfl

def isFailing : HealthState → Bool
  | failing _ => true
  | _ => false

/-- The state after a check with this outcome, or `none` if it stays as it is. -/
def next? (s : HealthState) (outcome : Outcome) (level : Level) : Option HealthState :=
  match outcome, s with
  | .pass, unknown => some normal
  | .pass, failing _ => some repaired
  | .pass, normal => none
  | .pass, repaired => none
  | .fail, s => if s = failing level then none else some (failing level)
  | .indeterminate, unknown => none
  | .indeterminate, _ => some unknown

end HealthState

/-- A change of an item's health. -/
structure Transition where
  before : HealthState
  after : HealthState
deriving Repr, DecidableEq

/-- Whether a change is reported and marks the item's node as changed. A first
success out of `unknown` is applied silently. -/
def Transition.announced (t : Transition) : Bool :=
  !(t.before == .unknown && t.after == .normal)

/-- One step of an item's health: the state afterwards, and the transition if
the state changed. -/
def HealthState.apply (s : HealthState) (outcome : Outcome) (level : Level) :
    HealthState × Option Transition :=
  match s.next? outcome level with
  | none => (s, none)
  | some t => (t, some ⟨s, t⟩)

theorem HealthState.apply_fst (s : HealthState) (o : Outcome) (l : Level) :
    (s.apply o l).1 = (s.next? o l).getD s := by
  unfold HealthState.apply
  cases s.next? o l <;> rfl

theorem HealthState.next?_ne {s t : HealthState} {o : Outcome} {l : Level}
    (h : s.next? o l = some t) : t ≠ s := by
  cases s <;> cases o <;> simp_all [HealthState.next?] <;> grind

/-- A transition is reported exactly when the state changes, and it names the
states before and after. -/
theorem HealthState.apply_snd_eq_some_iff {s : HealthState} {o : Outcome} {l : Level}
    {t : Transition} :
    (s.apply o l).2 = some t ↔ t = ⟨s, (s.apply o l).1⟩ ∧ (s.apply o l).1 ≠ s := by
  unfold HealthState.apply
  cases h : s.next? o l with
  | none => simp
  | some u => simpa [eq_comm] using fun _ => HealthState.next?_ne h

end Vigil
