import Vigil.Scheduler.Claims
import Vigil.Scheduler.Timing
import Vigil.Check.Dispatch

/-!
# Ticks

A tick finds the items that are due, claims one after another, loads each again
once it is claimed, moves its due time on and launches its dispatch. It goes in
small steps, one for each call of the store, because other work may come between
any two of them. `Tick.step` is one such step, and `Tick.run` is a whole tick
that nothing comes between.
-/

namespace Vigil

/-- A dispatch to be launched, after a delay. The claim of the tick goes with it. -/
structure Launch where
  claim : Uuid
  item : Item
  delay : Duration

/-- What a tick shares with all that runs beside it. -/
structure Shared (σ : Type) where
  world : σ
  claims : Claims
  /-- Whether the scheduler is shutting down. -/
  stopping : Bool

/-- What a tick has done: the items launched, in order, and the items due that
were left alone because they are in flight. -/
structure TickReport where
  dispatched : List Uuid
  skipped : List Uuid
deriving DecidableEq, Inhabited

/-- What a tick does next. -/
inductive Stage where
  /-- Lists the items. -/
  | enumerate
  /-- Claims the first of the candidates. -/
  | claim (rest : List Item)
  /-- Loads the item under the id that it has claimed. -/
  | reload (id : Uuid) (rest : List Item)
  /-- Writes the new times of the item that it has loaded. -/
  | reschedule (id : Uuid) (item : Item) (rest : List Item)
  /-- Launches the dispatch of the item. -/
  | launch (id : Uuid) (item : Item) (rest : List Item)
  | done
  /-- A time or a duration left its range. -/
  | overflowed

/-- A tick under way. -/
structure Tick where
  now : Time
  horizon : Time
  stage : Stage
  report : TickReport

namespace Tick

def emptyReport : TickReport := ⟨[], []⟩

/-- A tick at `now`; when the scheduler is shutting down it is over at once. -/
def start (timing : Timing) (now : Time) (stopping : Bool) : Tick :=
  if stopping then ⟨now, now, .done, emptyReport⟩
  else match timing.horizon? now with
    | none => ⟨now, now, .overflowed, emptyReport⟩
    | some horizon => ⟨now, horizon, .enumerate, emptyReport⟩

/-- The items to be dispatched, earliest due first. Items due at the same time
keep the order of the store. -/
def candidates (horizon : Time) (items : List Item) : List Item :=
  (items.filter (·.isDue horizon)).mergeSort fun a b =>
    decide (a.progress.nextDue ≤ b.progress.nextDue)

/-- The delay of the next launch. The launches so far are counted in a word of 32
bits. -/
def delay? (timing : Timing) (t : Tick) : Option Duration :=
  timing.stagger.times? (t.report.dispatched.length % UInt32.size)

/-- The item with its times as this tick sets them. -/
def rearm? (t : Tick) (item : Item) : Option Item :=
  (item.rearm? t.now).map fun i => { i with progress := { i.progress with lastRun := some t.now } }

/-- The tick with another stage. -/
def goTo (t : Tick) (stage : Stage) : Tick := { t with stage }

variable {σ : Type} [Store σ]

/-- Lists the items; if that fails the tick is over. -/
def enumerateStep (t : Tick) (s : Shared σ) : Tick × Shared σ :=
  match (Store.items : Access σ _) s.world with
  | (.ok items, world) => (t.goTo (.claim (candidates t.horizon items)), { s with world })
  | (.error _, world) => (t.goTo .done, { s with world })

/-- Claims the first candidate, or passes it over if it is claimed already. -/
def claimStep (t : Tick) (candidate : Item) (rest : List Item) (s : Shared σ) :
    Tick × Shared σ :=
  match s.claims.claim? candidate.id with
  | some claims => (t.goTo (.reload candidate.id rest), { s with claims })
  | none =>
    ({ t with
        stage := .claim rest
        report := { t.report with skipped := t.report.skipped ++ [candidate.id] } }, s)

/-- Loads a claimed item, and gives the claim back if it is not due any more. -/
def reloadStep (t : Tick) (id : Uuid) (rest : List Item) (s : Shared σ) : Tick × Shared σ :=
  match (Store.get? id : Access σ _) s.world with
  | (.ok (some item), world) =>
    if item.isDue t.horizon then
      match t.rearm? item with
      | some item => (t.goTo (.reschedule id item rest), { s with world })
      | none => (t.goTo .overflowed, { s with world, claims := s.claims.release id })
    else (t.goTo (.claim rest), { s with world, claims := s.claims.release id })
  | (_, world) => (t.goTo (.claim rest), { s with world, claims := s.claims.release id })

/-- Writes the new times of a claimed item. The dispatch goes on if that fails. -/
def rescheduleStep (t : Tick) (id : Uuid) (item : Item) (rest : List Item) (s : Shared σ) :
    Tick × Shared σ :=
  let world :=
    ((Store.reschedule item.id item.progress.nextDue item.progress.lastRun : Access σ _) s.world).2
  (t.goTo (.launch id item rest), { s with world })

/-- Launches the dispatch of a claimed item; the claim goes with it. -/
def launchStep (timing : Timing) (t : Tick) (id : Uuid) (item : Item) (rest : List Item)
    (s : Shared σ) : Tick × Shared σ × Option Launch :=
  match t.delay? timing with
  | some delay =>
    ({ t with
        stage := .claim rest
        report := { t.report with dispatched := t.report.dispatched ++ [item.id] } },
      s, some ⟨id, item, delay⟩)
  | none => (t.goTo .overflowed, { s with claims := s.claims.release id }, none)

/-- One step of a tick. -/
def step (timing : Timing) (t : Tick) (s : Shared σ) : Tick × Shared σ × Option Launch :=
  let quiet (r : Tick × Shared σ) : Tick × Shared σ × Option Launch := (r.1, r.2, none)
  match t.stage with
  | .enumerate => quiet (t.enumerateStep s)
  | .claim [] => (t.goTo .done, s, none)
  | .claim (candidate :: rest) => quiet (t.claimStep candidate rest s)
  | .reload id rest => quiet (t.reloadStep id rest s)
  | .reschedule id item rest => quiet (t.rescheduleStep id item rest s)
  | .launch id item rest => t.launchStep timing id item rest s
  | .done => (t, s, none)
  | .overflowed => (t, s, none)

/-- Whether a tick has nothing left to do. -/
def isOver (t : Tick) : Bool :=
  match t.stage with
  | .done => true
  | .overflowed => true
  | _ => false

/-- Up to `fuel` steps of a tick, with what they launch. -/
def steps (timing : Timing) : Nat → Tick → Shared σ → List Launch → Tick × Shared σ × List Launch
  | 0, t, s, launched => (t, s, launched)
  | fuel + 1, t, s, launched =>
    if t.isOver then (t, s, launched)
    else
      let (t, s, launch) := t.step timing s
      steps timing fuel t s (launched ++ launch.toList)

/-- The steps that are enough for the stage of a tick: four for each candidate,
and one for the end. -/
def stepBound : Stage → Nat
  | .enumerate => 0
  | .claim rest => 4 * rest.length + 1
  | .reload _ rest => 4 * rest.length + 4
  | .reschedule _ _ rest => 4 * rest.length + 3
  | .launch _ _ rest => 4 * rest.length + 2
  | .done => 0
  | .overflowed => 0

/-- A whole tick that nothing comes between. -/
def run (timing : Timing) (now : Time) (s : Shared σ) : Tick × Shared σ × List Launch :=
  let t := start timing now s.stopping
  if t.isOver then (t, s, [])
  else
    let (t, s, _) := t.step timing s
    steps timing (stepBound t.stage) t s []

end Tick

end Vigil
