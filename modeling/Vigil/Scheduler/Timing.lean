import Vigil.Time.Basic

/-!
# Timing of the scheduler
-/

namespace Vigil

/-- The times that rule the scheduler. -/
structure Timing where
  /-- From one tick of the timer to the next. -/
  tickPeriod : Duration
  /-- Items due within this time are dispatched by a tick. -/
  lookahead : Duration
  /-- Between two launches of one tick. -/
  stagger : Duration
  /-- How long dispatches may run on after the scheduler has stopped. -/
  shutdownGrace : Duration
  /-- What a check may take on top of its attempts. -/
  budgetGrace : Duration
deriving DecidableEq, Repr

namespace Timing

def standard : Timing :=
  ⟨.ofSeconds 30, .ofSeconds 30, .ofMillis 5, .ofSeconds 30, .ofSeconds 5⟩

/-- The time up to which a tick at `now` dispatches items. A lookahead that is no
span counts as none. It is `none` if the sum lies outside of the times. -/
def horizon? (timing : Timing) (now : Time) : Option Time :=
  now.add? (timing.lookahead.toSpan?.getD .zero)

end Timing

end Vigil
