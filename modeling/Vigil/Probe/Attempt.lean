import Vigil.Check.Program

/-!
# Attempts

A check tries its target once, and again as often as it may as long as it fails.
`Trial.run` makes the attempts; what it gives holds all of them, so that a trial
says how long it took as well as what came of it.
-/

namespace Vigil

/-- One try of a target: how long it took, and its success or the text of its
failure. -/
structure Attempt (α : Type) where
  duration : Duration
  result : Except String α

/-- The attempts of a check. All but the last have failed. -/
structure Trial (α : Type) where
  failed : List (Attempt α)
  last : Attempt α

namespace Trial

variable {α σ : Type}

/-- Makes attempts until one succeeds, one more than `retries` at most. -/
def run (next : σ → Attempt α × σ) : Nat → σ → Trial α × σ
  | 0, s =>
    let (a, s) := next s
    (⟨[], a⟩, s)
  | retries + 1, s =>
    let (a, s) := next s
    if a.result.isOk then (⟨[], a⟩, s)
    else
      let (t, s) := run next retries s
      ({ t with failed := a :: t.failed }, s)

/-- All attempts, in order. -/
def attempts (t : Trial α) : List (Attempt α) := t.failed ++ [t.last]

/-- The first success, or the last failure. -/
def result (t : Trial α) : Except String α := t.last.result

/-- What a probe does that takes the time of the attempts and then goes on. -/
def program (t : Trial α) (rest : Program) : Program :=
  t.attempts.foldr (fun a p => .sleep a.duration p) rest

end Trial

end Vigil
