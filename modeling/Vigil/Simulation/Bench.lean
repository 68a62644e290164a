import Vigil.Scheduler.Task
import Vigil.Scheduler.Retest
import Vigil.Check.Journal
import Vigil.Simulation.World

/-!
# The engine on a bench

A bench runs the scheduler and its dispatches in a world under observation,
under a clock that stands still until it is moved. Everything that can go on at
the present moment does so before the next order is taken. The wall clock, by
which retests and the ticks of the timer go, does not move at all.

Moments are nanoseconds on the clock of the bench. What the probes work on, such
as a network, stands outside of the engine and changes with every check.
-/

namespace Vigil

/-- What a dispatch on the bench waits for. -/
inductive Wait where
  /-- Nothing: it has just been launched. -/
  | ready
  /-- The end of its delay. -/
  | delayed (limit : Nat)
  /-- The end of a sleep, or of its budget. -/
  | sleeping (limit deadline : Nat)
  /-- A permit at the gate of its item, or the end of its budget. Those who came
  first have the smaller tickets. -/
  | atGate (ticket deadline : Nat)

/-- A dispatch on the bench. -/
structure Actor where
  task : Task
  wait : Wait

/-- The loop that ticks by the timer and when a retest wakes it. -/
inductive TickLoop where
  | absent
  /-- Waits for the timer, a wake-up or the end. -/
  | waiting (timer : Nat)
  /-- Waits for the dispatches in flight, up to a deadline. -/
  | draining (deadline : Nat)
  | ended
  /-- A tick overflowed. -/
  | failed

/-- The engine and its surroundings. -/
structure Bench (σ ω : Type) where
  timing : Timing
  shared : Shared (World σ)
  /-- Whether a retest has asked for a tick that has not begun yet. -/
  wake : Bool
  clock : Nat
  wall : Time
  /-- The dispatches under way, in the order of their launch. -/
  actors : List Actor
  loop : TickLoop
  /-- The reports of dispatches that ticks have launched, the oldest first. -/
  reports : List Report
  /-- What became of the last dispatch that no tick has launched. -/
  direct : Option (Option Report)
  /-- The items whose gate holds a permit. -/
  permits : List Uuid
  tickets : Nat
  /-- What the probes work on. -/
  outside : ω
  /-- What the probe of an item does in a check, if its tag is known. -/
  probe : Item → Option (ω → Program × ω)
  /-- What the log says, the oldest line first. -/
  journal : List LogLine

namespace Bench

variable {σ ω : Type}

/-- A bench on which nothing has happened yet. -/
def start (timing : Timing) (wall : Time) (world : World σ) (outside : ω)
    (probe : Item → Option (ω → Program × ω)) : Bench σ ω :=
  { timing, shared := ⟨world, .empty, false⟩, wake := false, clock := 0, wall, actors := [],
    loop := .absent, reports := [], direct := none, permits := [], tickets := 0, outside, probe,
    journal := [] }

/-- The bench with more lines in its log. -/
def note (b : Bench σ ω) (lines : List LogLine) : Bench σ ω :=
  { b with journal := b.journal ++ lines }

/-- The time after which a timer that is too far away for the clock fires: thirty
years. -/
def farFuture : Nat := 86400 * 365 * 30 * nanosPerSecond

/-- The moment a duration after now. -/
def after (b : Bench σ ω) (d : Duration) : Nat :=
  if d.seconds < Duration.timerLimit then b.clock + d.nanos else b.clock + farFuture

variable [Store σ] [Directory σ] [Listing σ]

/-- Ends a dispatch: its effects, its report and its claim. -/
def finish (b : Bench σ ω) (t : Task) : Bench σ ω :=
  let b := match t.phase with
    | .recording found es _ => b.note (Effect.lines b.wall found b.shared.world es)
    | _ => b
  let (t, shared) := t.record b.wall b.shared
  let shared := t.release shared
  let b := { b with shared }
  match t.phase with
  | .over report =>
    if t.claimed then { b with reports := b.reports ++ report.toList }
    else { b with direct := some report }
  | _ => b

/-- Ends a check with what it came to. -/
def conclude (b : Bench σ ω) (t : Task) (c : Conclusion) : Bench σ ω :=
  (b.note (c.lines t.item)).finish (t.conclude c b.wall)

/-- Lets a probe work on until it has to wait; the actor, if it is not over. -/
def work (b : Bench σ ω) (t : Task) (m : Readings) (p : Program) (budget : Duration)
    (deadline : Nat) : Bench σ ω × Option Actor :=
  match p.settle m with
  | (_, .done c) => (b.conclude t c, none)
  | (m, .sleeping d rest) =>
    (b, some ⟨t.goTo (.checking m rest budget), .sleeping (b.after d) deadline⟩)
  | (m, .atGate rest) =>
    ({ b with tickets := b.tickets + 1 },
      some ⟨t.goTo (.checking m rest budget), .atGate b.tickets deadline⟩)

/-- Starts the check of a dispatch whose delay is over. -/
def begin (b : Bench σ ω) (t : Task) : Bench σ ω × Option Actor :=
  let planned := (b.probe t.item).map fun run => Thunk.mk fun _ => run b.outside
  let u := t.begin b.shared.stopping b.timing.budgetGrace
    (planned.map fun r _ => r.get.1) b.wall
  match u.phase, planned with
  | .checking m p budget, some r =>
    { b with outside := r.get.2 }.work u m p budget (b.after budget)
  | .recording _ _ _, none => ((b.note (Conclusion.unknownProbe.lines t.item)).finish u, none)
  | _, _ => (b.finish u, none)

/-- Ends a check whose time is over. -/
def overrun (b : Bench σ ω) (t : Task) : Bench σ ω :=
  match t.phase with
  | .checking m _ budget => b.conclude t (.overran budget m)
  | _ => b.finish t

/-- Goes on with a probe after its wait. -/
def resume (b : Bench σ ω) (t : Task) (deadline : Nat) : Bench σ ω × Option Actor :=
  match t.phase with
  | .checking m p budget => b.work t m p budget deadline
  | _ => (b.finish t, none)

/-- Whether a ticket is the next one at the gate of an item. -/
def isNext (b : Bench σ ω) (id : Uuid) (ticket : Nat) : Bool :=
  b.actors.all fun a => match a.wait with
    | .atGate other _ => a.task.item.id != id || ticket ≤ other
    | _ => true

/-- Lets an actor go on, if it can: the bench, and the actor if it is not over.
It is `none` if the actor has to wait. -/
def poll (b : Bench σ ω) (a : Actor) : Option (Bench σ ω × Option Actor) :=
  match a.wait with
  | .ready =>
    match a.task.phase with
    | .delayed delay =>
      if delay.nanos = 0 then some (b.begin a.task)
      else some (b, some { a with wait := .delayed (b.after delay) })
    | _ => some (b.finish a.task, none)
  | .delayed limit =>
    if limit ≤ b.clock ∨ b.shared.stopping then some (b.begin a.task) else none
  | .sleeping limit deadline =>
    if limit ≤ b.clock then some (b.resume a.task deadline)
    else if deadline ≤ b.clock then some (b.overrun a.task, none)
    else none
  | .atGate ticket deadline =>
    let id := a.task.item.id
    if b.permits.contains id && b.isNext id ticket then
      some ({ b with permits := b.permits.filter (· != id) }.resume a.task deadline)
    else if deadline ≤ b.clock then some (b.overrun a.task, none)
    else none

/-- Polls the actors that have not been polled, and says whether any went on. -/
def pollActors (b : Bench σ ω) : List Actor → List Actor → Bool → Bench σ ω × Bool
  | [], polled, went => ({ b with actors := polled }, went)
  | a :: rest, polled, went =>
    match { b with actors := polled ++ a :: rest }.poll a with
    | none => pollActors b rest (polled ++ [a]) went
    | some (b, none) => pollActors b rest polled true
    | some (b, some a) => pollActors b rest (polled ++ [a]) true

/-- What a tick says about the listing of the items. -/
def listingLines (world : World σ) : List LogLine :=
  match (Store.items : Access (World σ) _) world with
  | (.error e, _) => [.warn ("Tick skipped, could not enumerate items: " ++ e.text)]
  | (.ok _, _) =>
    (Listing.leftOut world).map fun e => .warn ("Skipping unreadable item row: " ++ e.text)

/-- A tick at a time. It is `none` if a time or a duration left its range. -/
def tickAt (b : Bench σ ω) (now : Time) : Option TickReport × Bench σ ω :=
  let b := if b.shared.stopping then b else b.note (listingLines b.shared.world)
  let (t, shared, launches) := Tick.run b.timing now b.shared
  let actors := launches.map fun l => (⟨.ofLaunch l, .ready⟩ : Actor)
  let b := { b with shared, actors := b.actors ++ actors }
  match t.stage with
  | .overflowed => (none, b)
  | _ => (some t.report, b)

/-- Whether a dispatch launched by a tick is under way. -/
def isBusy (b : Bench σ ω) : Bool := b.actors.any (·.task.claimed)

/-- The next tick of a timer that was due at a moment. A timer that is late skips
the ticks that it has missed. -/
def nextTimer (b : Bench σ ω) (due : Nat) : Nat :=
  let period := b.timing.tickPeriod
  if due + 5000000 < b.clock then
    b.after period - (b.clock - due) % period.nanos
  else if period.seconds < Duration.timerLimit then due + period.nanos
  else b.after period

/-- Ticks in the loop, whose timer then fires at `timer`. -/
def tickInLoop (b : Bench σ ω) (timer : Nat) : Bench σ ω :=
  match b.tickAt b.wall with
  | (some _, b) => { b with loop := .waiting timer }
  | (none, b) => { b with loop := .failed }

/-- Ends the loop; it goes on to wait for the dispatches in flight. -/
def stopLoop (b : Bench σ ω) : Bench σ ω :=
  { b with loop := .draining (b.after b.timing.shutdownGrace) }.note
    [.info ("Scheduler stopping, waiting for " ++ toString b.shared.claims.count ++
      " in-flight dispatch(es)")]

/-- What is said when the wait for the dispatches in flight is over. -/
def drainedLines (b : Bench σ ω) : List LogLine :=
  if b.isBusy then
    [.warn (toString b.shared.claims.count ++ " dispatch(es) still running after " ++
      b.timing.shutdownGrace.text ++ ", abandoning them")]
  else []

/-- Lets the loop go on, and says whether it did. -/
def pollLoop (b : Bench σ ω) : Bench σ ω × Bool :=
  match b.loop with
  | .waiting timer =>
    if b.shared.stopping then (b.stopLoop, true)
    else if b.wake then ({ b with wake := false }.tickInLoop timer, true)
    else if timer ≤ b.clock then (b.tickInLoop (b.nextTimer timer), true)
    else (b, false)
  | .draining deadline =>
    if !b.isBusy ∨ deadline ≤ b.clock then
      ({ b with loop := .ended }.note b.drainedLines, true)
    else (b, false)
  | _ => (b, false)

/-- Lets everything go on that can at the present moment. -/
def settle : Nat → Bench σ ω → Bench σ ω
  | 0, b => b
  | fuel + 1, b =>
    let (b, went) := b.pollActors b.actors [] false
    let (b, looped) := b.pollLoop
    if went || looped then settle fuel b else b

/-- The rounds that are taken to be enough for any one moment. -/
def rounds : Nat := 100000

/-- The moments at which something is to happen. -/
def timers (b : Bench σ ω) : List Nat :=
  (b.actors.flatMap fun a => match a.wait with
    | .ready => []
    | .delayed limit => [limit]
    | .sleeping limit deadline => [limit, deadline]
    | .atGate _ deadline => [deadline]) ++
  (match b.loop with
    | .waiting timer => [timer]
    | .draining deadline => [deadline]
    | _ => [])

/-- Moves the clock on, from one timer to the next, until `isDone`. The extra
timer is one that the waiting itself has set. -/
def waitUntil (isDone : Bench σ ω → Bool) (extra : List Nat) : Nat → Bench σ ω → Bench σ ω
  | 0, b => b
  | fuel + 1, b =>
    let b := settle rounds b
    if isDone b then b
    else
      match ((extra ++ b.timers).filter (b.clock < ·)).min? with
      | none => b
      | some moment => waitUntil isDone extra fuel { b with clock := moment }

/-! ### Orders -/

/-- Ticks at a time, or at the wall clock. -/
def tick (b : Bench σ ω) (time : Option Time) : Option TickReport × Bench σ ω :=
  let (r, b) := b.tickAt (time.getD b.wall)
  (r, settle rounds b)

/-- Dispatches an item at once, and waits for the end: its report, or `none` if
its budget is out of range. -/
def dispatch (b : Bench σ ω) (item : Item) : Option Report × Bench σ ω :=
  let b := { b with actors := ⟨.direct item, .ready⟩ :: b.actors, direct := none }
  let b := waitUntil (·.direct.isSome) [] rounds b
  (b.direct.bind id, b)

/-- Moves the clock on by a duration, from one timer to the next. -/
def advance (b : Bench σ ω) (d : Duration) : Bench σ ω :=
  let target := b.clock + d.nanos
  waitUntil (fun b => decide (target ≤ b.clock)) [target] rounds b

/-- Gives the gate of an item a permit; it keeps one at most. -/
def release (b : Bench σ ω) (id : Uuid) : Bench σ ω :=
  settle rounds { b with permits := if b.permits.contains id then b.permits else id :: b.permits }

/-- The bench with another world, after all that can go on. -/
def withWorld (b : Bench σ ω) (world : World σ) : Bench σ ω :=
  settle rounds { b with shared := { b.shared with world } }

/-- Asks for a retest of an item. -/
def retest (b : Bench σ ω) (id : Uuid) : Except RetestError Unit × Bench σ ω :=
  let (r, world) := Retest.one id b.wall b.shared.world
  let b := { b with wake := b.wake || r.isOk }
  (r, b.withWorld world)

/-- Asks for a retest of all items that are not in normal health. -/
def retestAll (b : Bench σ ω) : Except RetestError Nat × Bench σ ω :=
  let (r, world) := Retest.all b.wall b.shared.world
  let b := { b with wake := b.wake || r.isOk }
  (r, b.withWorld world)

/-- An operation on the engine's store, faults included. -/
def onWorld {α : Type} (b : Bench σ ω) (a : Access (World σ) α) : Except StoreError α × Bench σ ω :=
  let (r, world) := a b.shared.world
  (r, b.withWorld world)

/-- An operation on the store behind the faults. -/
def behind {α : Type} (b : Bench σ ω) (a : Access σ α) : Except StoreError α × Bench σ ω :=
  b.onWorld (World.onStore (FaultyStore.behind a))

/-- Starts the loop. Its timer fires at once. -/
def run (b : Bench σ ω) : Bench σ ω :=
  settle rounds <| { b with loop := .waiting b.clock }.note
    [.info ("Scheduler running (tick " ++ b.timing.tickPeriod.text ++ ", lookahead " ++
      b.timing.lookahead.text ++ ", stagger " ++ b.timing.stagger.text ++ ")")]

def shutdown (b : Bench σ ω) : Bench σ ω :=
  settle rounds { b with shared := { b.shared with stopping := true } }

/-- Waits for the dispatches that ticks have launched, as long as the grace for
it lasts. -/
def drain (b : Bench σ ω) : Bench σ ω :=
  let deadline := b.after b.timing.shutdownGrace
  waitUntil (fun b => !b.isBusy || deadline ≤ b.clock) [deadline] rounds b

/-- Waits for the end of the loop: whether there is one and it has not failed. -/
def join (b : Bench σ ω) : Option Bool × Bench σ ω :=
  match b.loop with
  | .absent => (none, b)
  | _ =>
    let isDone (b : Bench σ ω) : Bool := match b.loop with
      | .waiting _ => false
      | .draining _ => false
      | _ => true
    let b := waitUntil isDone [] rounds b
    match b.loop with
    | .failed => (some false, { b with loop := .absent })
    | _ => (some true, { b with loop := .absent })

end Bench

end Vigil
