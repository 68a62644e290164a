import Mathlib.Data.List.Induction
import Vigil.Health.State

/-!
# Health after a history of checks

A state of health remembers little of the checks that led to it. A failure and an indeterminate
check decide the state whatever was before; a success decides it together with the last check
that was none, and with the start if there was no such check: `HealthState.decided`.
-/

namespace Vigil

/-- One check: its outcome, and the level at which a failure is reported. -/
structure Finding where
  outcome : Outcome
  level : Level
deriving Repr, DecidableEq

namespace Finding

/-- The last check that was not a success. -/
def lastSetback? (fs : List Finding) : Option Finding :=
  (fs.filter (·.outcome ≠ .pass)).getLast?

theorem lastSetback?_concat_of_pass {f : Finding} (hf : f.outcome = .pass) (fs : List Finding) :
    lastSetback? (fs ++ [f]) = lastSetback? fs := by
  rw [lastSetback?, List.filter_append, List.filter_cons_of_neg (by simp [hf]), List.filter_nil,
    List.append_nil]
  rfl

theorem lastSetback?_concat_of_ne {f : Finding} (hf : f.outcome ≠ .pass) (fs : List Finding) :
    lastSetback? (fs ++ [f]) = some f := by
  rw [lastSetback?, List.filter_append, List.filter_cons_of_pos (by simpa using hf),
    List.filter_nil, List.getLast?_concat]

end Finding

open Finding

namespace HealthState

variable (s start : HealthState)

/-- The state after checks, one after another. -/
def after (s : HealthState) (fs : List Finding) : HealthState :=
  fs.foldl (fun s f => (s.apply f.outcome f.level).1) s

/-- The changes that checks bring about, one after another. -/
def transitions (s : HealthState) : List Finding → List Transition
  | [] => []
  | f :: fs =>
    (s.apply f.outcome f.level).2.toList ++ transitions (s.apply f.outcome f.level).1 fs

/-- The state after a success. -/
def recovered : HealthState → HealthState
  | unknown => normal
  | failing _ => repaired
  | s => s

/-- The state that checks lead to from a start: what the last one of them says, and if that is a
success, what the last one before it says that was none. -/
def decided (start : HealthState) (fs : List Finding) : HealthState :=
  match fs.getLast? with
  | none => start
  | some ⟨.fail, level⟩ => failing level
  | some ⟨.indeterminate, _⟩ => unknown
  | some ⟨.pass, _⟩ =>
    match lastSetback? fs with
    | some ⟨.fail, _⟩ => repaired
    | some _ => normal
    | none => start.recovered

/-! ### The closed form -/

theorem after_concat (fs : List Finding) (f : Finding) :
    s.after (fs ++ [f]) = ((s.after fs).apply f.outcome f.level).1 := by
  rw [after, List.foldl_append]
  rfl

theorem apply_fail (level : Level) : (s.apply .fail level).1 = failing level := by
  rw [apply_fst, next?]
  split
  · next h => exact h
  · rfl

theorem apply_indeterminate (level : Level) : (s.apply .indeterminate level).1 = unknown := by
  cases s <;> rfl

theorem apply_pass (level : Level) : (s.apply .pass level).1 = s.recovered := by
  cases s <;> rfl

@[simp] theorem recovered_recovered : s.recovered.recovered = s.recovered := by
  cases s <;> rfl

theorem decided_concat_fail (fs : List Finding) (level : Level) :
    start.decided (fs ++ [⟨.fail, level⟩]) = failing level := by
  rw [decided, List.getLast?_concat]

theorem decided_concat_indeterminate (fs : List Finding) (level : Level) :
    start.decided (fs ++ [⟨.indeterminate, level⟩]) = unknown := by
  rw [decided, List.getLast?_concat]

/-- A success leads to the state after a success of the state before. -/
theorem decided_concat_pass (fs : List Finding) (level : Level) :
    start.decided (fs ++ [⟨.pass, level⟩]) = (start.decided fs).recovered := by
  rw [decided, List.getLast?_concat]
  dsimp only
  rw [lastSetback?_concat_of_pass rfl]
  -- The check before is a setback itself, or a success that the same setback decides.
  cases fs using List.reverseRecOn with
  | nil => rfl
  | append_singleton early f =>
      obtain ⟨outcome, before⟩ := f
      cases outcome with
      | fail => rw [lastSetback?_concat_of_ne Outcome.noConfusion, decided_concat_fail]; rfl
      | indeterminate =>
          rw [lastSetback?_concat_of_ne Outcome.noConfusion,
              decided_concat_indeterminate]; rfl
      | pass =>
          rw [decided, List.getLast?_concat]
          dsimp only
          split
          · rfl
          · rfl
          · exact start.recovered_recovered.symm

theorem after_eq_decided (fs : List Finding) : start.after fs = start.decided fs := by
  induction fs using List.reverseRecOn with
  | nil => rfl
  | append_singleton fs f ih =>
      obtain ⟨outcome, level⟩ := f
      rw [after_concat, ih]
      cases outcome with
      | fail => rw [apply_fail, decided_concat_fail]
      | indeterminate => rw [apply_indeterminate, decided_concat_indeterminate]
      | pass => rw [apply_pass, decided_concat_pass]

/-! ### The changes on the way -/

/-- What a step between two states reports. -/
structure Reports (before after : HealthState) (t? : Option Transition) : Prop where
  isSome_iff : t?.isSome = true ↔ before ≠ after
  names : ∀ t ∈ t?, t.before = before ∧ t.after = after ∧ t.before ≠ t.after
  silent_iff : ∀ t ∈ t?, t.announced = false ↔ before = unknown ∧ after = normal

theorem reports_apply (outcome : Outcome) (level : Level) :
    Reports s (s.apply outcome level).1 (s.apply outcome level).2 := by
  have hmem {t : Transition} (ht : t ∈ (s.apply outcome level).2) := apply_snd_eq_some_iff.1 ht
  refine ⟨?_, fun t ht => ?_, fun t ht => ?_⟩
  · rw [Option.isSome_iff_exists]
    exact ⟨fun ⟨t, ht⟩ => (hmem ht).2.symm,
      fun hne => ⟨_, apply_snd_eq_some_iff.2 ⟨rfl, hne.symm⟩⟩⟩
  · obtain ⟨rfl, hne⟩ := hmem ht
    exact ⟨rfl, rfl, hne.symm⟩
  · obtain ⟨rfl, -⟩ := hmem ht
    simp [Transition.announced]

/-- The same check a second time changes nothing. -/
theorem apply_again (outcome : Outcome) (level : Level) :
    (s.apply outcome level).1.apply outcome level = ((s.apply outcome level).1, none) := by
  cases outcome with
  | fail => rw [apply_fail, apply, next?, if_pos rfl]
  | indeterminate => rw [apply_indeterminate]; rfl
  | pass => rw [apply_pass]; cases s <;> rfl

theorem transitions_replicate_eq_nil {f : Finding}
    (h : s.apply f.outcome f.level = (s, none)) (n : Nat) :
    s.transitions (List.replicate n f) = [] := by
  induction n with
  | zero => rfl
  | succ n ih => rw [List.replicate_succ, transitions, h, ih]; rfl

/-- The same check over and over again brings about one change at most. -/
theorem length_transitions_replicate_le (f : Finding) (n : Nat) :
    (s.transitions (List.replicate n f)).length ≤ 1 := by
  cases n with
  | zero => exact Nat.zero_le 1
  | succ n =>
      have hrest : (s.apply f.outcome f.level).1.transitions (List.replicate n f) = [] :=
        transitions_replicate_eq_nil _ (s.apply_again f.outcome f.level) n
      rw [List.replicate_succ, transitions, hrest, List.append_nil]
      cases (s.apply f.outcome f.level).2 <;> simp

/-- The history of its checks decides the state of an item. On the way a check reports a change
exactly if there is one, and checks in a row that find the same report one change at most. -/
theorem decided_by_history (start : HealthState) :
    (∀ fs, start.after fs = start.decided fs) ∧
    (∀ fs f, Reports (start.after fs) (start.after (fs ++ [f]))
      ((start.after fs).apply f.outcome f.level).2) ∧
    ∀ fs f n, ((start.after fs).transitions (List.replicate n f)).length ≤ 1 := by
  refine ⟨start.after_eq_decided, fun fs f => ?_, fun fs f n => ?_⟩
  · rw [after_concat]
    exact (start.after fs).reports_apply f.outcome f.level
  · exact (start.after fs).length_transitions_replicate_le f n

/-- A repair is remembered through successes, and forgotten through an indeterminate check. -/
example :
    let checks := [⟨.fail, .high⟩, ⟨.pass, .high⟩, ⟨.pass, .low⟩]
    normal.after checks = repaired ∧
      normal.after (checks ++ [⟨.indeterminate, .low⟩, ⟨.pass, .low⟩]) = normal := by
  decide

end HealthState

end Vigil
