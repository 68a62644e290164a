import Vigil.Proofs.Check.Verdict
import Vigil.Proofs.Store.World
import Vigil.Scheduler.Retest
import Vigil.Scheduler.Task

/-!
# The polling of items, step by step

Ticks, the dispatches that they launch and retests go on beside each other. A
`Polling` is all that is under way at one moment, and an `Action` is one step of
one of them: a call of the store, or something that only the one itself sees. A
run is a list of actions, in any order; an action that does not fit changes
nothing. `Polling.past` keeps what has happened so far.

The steps are those of `Tick.step`, `Task.begin`, `Task.conclude`,
`Task.recordStep` and `Task.release`; retests, which run in one go elsewhere, are
taken apart here into the calls of the store that they make. What is defined in one
go is a run in which nothing else happens; see `Vigil.Proofs.Polling.Uninterrupted`.
-/

namespace Vigil

/-! ### Checks -/

namespace Program

/-- The end of a program that may wait `waits` times, in a sleep or at a gate. One
that waits once more is cut off there. -/
def endAfter (budget : Duration) (waits : Nat) (m : Readings) : Program → Conclusion
  | finish e => e.conclude m
  | edit e rest => endAfter budget waits (e.apply m) rest
  | sleep _ rest =>
    match waits with
    | 0 => .overran budget m
    | n + 1 => endAfter budget n m rest
  | await rest =>
    match waits with
    | 0 => .overran budget m
    | n + 1 => endAfter budget n m rest

/-- The edits that a program makes that may wait `waits` times. -/
def editsWithin : Nat → Program → List Edit
  | _, finish _ => []
  | waits, edit e rest => e :: editsWithin waits rest
  | 0, sleep _ _ => []
  | waits + 1, sleep _ rest => editsWithin waits rest
  | 0, await _ => []
  | waits + 1, await rest => editsWithin waits rest

/-- The end that a program comes to, unless it waits more than `waits` times. -/
def endingWithin : Nat → Program → Option Ending
  | _, finish e => some e
  | waits, edit _ rest => endingWithin waits rest
  | 0, sleep _ _ => none
  | waits + 1, sleep _ rest => endingWithin waits rest
  | 0, await _ => none
  | waits + 1, await rest => endingWithin waits rest

end Program

/-- What the probe of an item does in one check. -/
inductive Check where
  /-- There is no probe for the tag of the item. -/
  | unknown
  /-- It runs a program within a budget, which is over after some waits. -/
  | probed (p : Program) (budget : Duration) (waits : Nat)

namespace Check

/-- The end of a check that starts with some readings. -/
def conclude (m : Readings) : Check → Conclusion
  | unknown => .unknownProbe
  | probed p budget waits => p.endAfter budget waits m

/-- The outcome of a check that starts with some readings, and the readings that it
leaves. -/
def verdict (s : Settings) (m : Readings) : Check → Outcome × Readings
  | unknown => (.indeterminate, m.insert "error" (.text ("unknown probe type: " ++ s.probe)))
  | probed p budget waits =>
    Ending.verdictWithin budget ((p.editsWithin waits).foldl Edit.apply m) (p.endingWithin waits)

end Check

/-- The item after a check: the probe has changed its readings, and the outcome its
health. -/
def Item.checked (i : Item) (c : Check) : Item :=
  i.judged (c.verdict i.settings i.progress.readings)

theorem Program.interpret_endAfter (item : Item) (budget : Duration) (waits : Nat) (m : Readings)
    (p : Program) : Dispatch.interpret item (p.endAfter budget waits m) =
      Ending.verdictWithin budget ((p.editsWithin waits).foldl Edit.apply m)
        (p.endingWithin waits) := by
  induction p generalizing waits m with
  | finish e => exact Dispatch.interpret_conclude item budget e m
  | edit e rest ih => exact ih waits (e.apply m)
  | sleep d rest ih =>
      cases waits with
      | zero => rfl
      | succ waits => exact ih waits m
  | await rest ih =>
      cases waits with
      | zero => rfl
      | succ waits => exact ih waits m

/-- A dispatch judges the item by the verdict of its check. -/
theorem Item.conclude_checked (i : Item) (c : Check) :
    (Dispatch.conclude i (c.conclude i.progress.readings)).1 = i.checked c := by
  cases c with
  | unknown => rfl
  | probed p budget waits =>
      exact congrArg i.judged (p.interpret_endAfter i budget waits i.progress.readings)

/-! ### What happens -/

/-- Something that happened to an item. -/
inductive Milestone where
  /-- A tick has loaded the item that it claimed; its times are moved on already. -/
  | loaded (item : Item)
  /-- A tick has written the new times of an item. -/
  | rearmed (item : Item)
  /-- A tick has launched a dispatch, which works on this copy. -/
  | launched (item : Item)
  /-- The check of an item has come to its end. -/
  | checked (id : Uuid) (c : Check)
  /-- A dispatch has written what it found. -/
  | persisted (item : Item)
  /-- A dispatch could not write what it found. -/
  | lost (id : Uuid)
  /-- A dispatch is over, or was dropped. -/
  | left (id : Uuid)
  /-- A retest of an item was written; it was asked for at a time. -/
  | reset (now : Time) (item : Item)

namespace Milestone

/-- The item that a milestone is about. -/
@[simp] def subject : Milestone → Uuid
  | loaded item => item.id
  | rearmed item => item.id
  | launched item => item.id
  | checked id _ => id
  | persisted item => item.id
  | lost id => id
  | left id => id
  | reset _ item => item.id

def isReset : Milestone → Bool
  | reset _ _ => true
  | _ => false

def isLost : Milestone → Bool
  | lost _ => true
  | _ => false

def isLoaded : Milestone → Bool
  | loaded _ => true
  | _ => false

/-- Whether a holder of the claim has written the item. -/
def isWrite : Milestone → Bool
  | rearmed _ => true
  | persisted _ => true
  | _ => false

end Milestone

/-! ### Ticks and dispatches -/

namespace Tick

variable {σ : Type} [Store σ]

/-- What the next step of a tick does to the item that it has claimed. -/
def milestones (timing : Timing) (t : Tick) (s : Shared σ) : List Milestone :=
  match t.stage, (t.step timing s).1.stage with
  | .reload _ _, .reschedule _ item _ => [.loaded item]
  | .reschedule _ item _, _ =>
    match ((Store.reschedule item.id item.progress.nextDue item.progress.lastRun :
        Access σ _) s.world).1 with
    | .ok () => [.rearmed item]
    | .error _ => []
  | .launch _ item _, .claim _ => [.launched item]
  | _, _ => []

/-- The claim that a tick holds at its stage. -/
def guard? (t : Tick) : Option Uuid :=
  match t.stage with
  | .reload id _ => some id
  | .reschedule id _ _ => some id
  | .launch id _ _ => some id
  | _ => none

/-- Gives the claim of a tick back. -/
def release (t : Tick) (s : Shared σ) : Shared σ :=
  match t.guard? with
  | some id => { s with claims := s.claims.release id }
  | none => s

end Tick

namespace Task

/-- Goes on after the delay, if there is one still. The item is checked at once if no
probe is known for it. -/
def beginCheck (t : Task) (stopping : Bool) (grace : Duration) (program : Option Program)
    (now : Time) : Task × List Milestone :=
  match t.phase with
  | .delayed _ =>
    let u := t.begin stopping grace (program.map fun p _ => p) now
    match u.phase with
    | .recording _ _ _ => (u, [.checked t.item.id .unknown])
    | _ => (u, [])
  | _ => (t, [])

/-- Ends a check that is under way. -/
def endCheck (t : Task) (waits : Nat) (now : Time) : Task × List Milestone :=
  match t.phase with
  | .checking m p budget =>
    (t.conclude (p.endAfter budget waits m) now, [.checked t.item.id (.probed p budget waits)])
  | _ => (t, [])

variable {σ : Type} [Store σ] [Directory σ] [Exporter σ]

/-- What the next effect of a dispatch does to its item. -/
def milestones (t : Task) (now : Time) (s : Shared σ) : List Milestone :=
  match t.phase with
  | .recording found (.persist item :: _) _ =>
    match (Effect.attempt now found s.world (.persist item)).1 with
    | .ok _ => [.persisted item]
    | .error _ => [.lost item.id]
  | _ => []

end Task

/-! ### Retests -/

/-- What a retest does next. -/
inductive RetestStage where
  /-- Loads one item. -/
  | load (id : Uuid)
  /-- Lists all items. -/
  | list
  /-- Writes the one item that was loaded at a time. -/
  | writeOne (now : Time) (item : Item)
  /-- Writes the rest of the items that were listed before a time. -/
  | writeAll (now : Time) (rest : List Item) (count : Nat)
  | done (result : Except RetestError Nat)

namespace RetestStage

variable {σ : Type} [Store σ]

/-- One call of the store that a retest makes at a time. -/
def step (now : Time) (s : σ) : RetestStage → RetestStage × σ × List Milestone
  | load id =>
    match (Retest.load id : Access σ _) s with
    | (.error e, t) => (done (.error (.store e)), t, [])
    | (.ok item, t) => (writeOne now item, t, [])
  | list =>
    match (Store.items : Access σ _) s with
    | (.error e, t) => (done (.error (.store e)), t, [])
    | (.ok items, t) => (writeAll now (items.filter Retest.isPending) 0, t, [])
  | writeOne asked item =>
    match item.forRetest? asked with
    | none => (done (.error .overflow), s, [])
    | some item =>
      match (Store.update item : Access σ _) s with
      | (.error e, t) => (done (.error (.store e)), t, [])
      | (.ok (), t) => (done (.ok 1), t, [.reset asked item])
  | writeAll _ [] count => (done (.ok count), s, [])
  | writeAll asked (item :: rest) count =>
    match item.forRetest? asked with
    | none => (done (.error .overflow), s, [])
    | some item =>
      match (Store.update item : Access σ _) s with
      | (.ok (), t) => (writeAll asked rest (count + 1), t, [.reset asked item])
      | (.error _, t) => (writeAll asked rest count, t, [])
  | done result => (done result, s, [])

end RetestStage

/-! ### Runs -/

/-- All that a scheduler has under way. -/
structure Polling (σ : Type) where
  shared : Shared σ
  ticks : List Tick
  /-- The dispatches that ticks have launched. -/
  tasks : List Task
  retests : List RetestStage
  /-- What has happened so far, the oldest first. -/
  past : List Milestone

/-- One step of what is under way. Numbers say which tick, dispatch or retest it is. -/
inductive Action (σ : Type) where
  | startTick (now : Time)
  | stepTick (n : Nat)
  /-- A tick is over, or it is dropped before. -/
  | dropTick (n : Nat)
  /-- A dispatch goes on after its delay; its probe, if it has one, will run a
  program. -/
  | beginCheck (n : Nat) (program : Option Program) (now : Time)
  | endCheck (n : Nat) (waits : Nat) (now : Time)
  /-- A dispatch attempts the next of its effects. -/
  | effect (n : Nat) (now : Time)
  /-- A dispatch is over, or it breaks down or is dropped before. -/
  | dropTask (n : Nat)
  | startRetest (id : Uuid)
  | startRetestAll
  | stepRetest (n : Nat) (now : Time)
  | shutDown
  /-- Others change what the scheduler works on. -/
  | outside (change : σ → σ)

namespace Polling

variable {σ : Type}

/-- Nothing is under way yet. -/
def start (world : σ) : Polling σ := ⟨⟨world, .empty, false⟩, [], [], [], []⟩

/-- The polling after another step of a task. -/
def setTask (p : Polling σ) (n : Nat) (r : Task × List Milestone) : Polling σ :=
  { p with tasks := p.tasks.set n r.1, past := p.past ++ r.2 }

/-- The polling after another step of a task that may have changed what is shared. -/
def advance (p : Polling σ) (n : Nat) (r : Task × List Milestone)
    (shared : Shared σ) : Polling σ :=
  { p.setTask n r with shared }

variable [Store σ] [Directory σ] [Exporter σ]

/-- The polling after an action. -/
def act (timing : Timing) (p : Polling σ) : Action σ → Polling σ
  | .startTick now => { p with ticks := p.ticks ++ [Tick.start timing now p.shared.stopping] }
  | .stepTick n =>
    match p.ticks[n]? with
    | none => p
    | some t =>
      let (u, shared, launch) := t.step timing p.shared
      { p with
        shared
        ticks := p.ticks.set n u
        tasks := p.tasks ++ (launch.map Task.ofLaunch).toList
        past := p.past ++ t.milestones timing p.shared }
  | .dropTick n =>
    match p.ticks[n]? with
    | none => p
    | some t => { p with shared := t.release p.shared, ticks := p.ticks.eraseIdx n }
  | .beginCheck n program now =>
    match p.tasks[n]? with
    | none => p
    | some t => p.setTask n (t.beginCheck p.shared.stopping timing.budgetGrace program now)
  | .endCheck n waits now =>
    match p.tasks[n]? with
    | none => p
    | some t => p.setTask n (t.endCheck waits now)
  | .effect n now =>
    match p.tasks[n]? with
    | none => p
    | some t =>
      let (u, shared) := t.recordStep now p.shared
      p.advance n (u, t.milestones now p.shared) shared
  | .dropTask n =>
    match p.tasks[n]? with
    | none => p
    | some t =>
      { p with
        shared := t.release p.shared
        tasks := p.tasks.eraseIdx n
        past := p.past ++ [.left t.item.id] }
  | .startRetest id => { p with retests := p.retests ++ [.load id] }
  | .startRetestAll => { p with retests := p.retests ++ [.list] }
  | .stepRetest n now =>
    match p.retests[n]? with
    | none => p
    | some r =>
      let (u, world, reset) := r.step now p.shared.world
      { p with
        shared := { p.shared with world }
        retests := p.retests.set n u
        past := p.past ++ reset }
  | .shutDown => { p with shared := { p.shared with stopping := true } }
  | .outside change => { p with shared := { p.shared with world := change p.shared.world } }

/-- The polling after a run. -/
def run (timing : Timing) (p : Polling σ) (as : List (Action σ)) : Polling σ :=
  as.foldl (act timing) p

@[simp] theorem run_nil (timing : Timing) (p : Polling σ) : p.run timing [] = p := rfl

theorem run_cons (timing : Timing) (p : Polling σ) (a : Action σ) (as : List (Action σ)) :
    p.run timing (a :: as) = (p.act timing a).run timing as := rfl

theorem run_append (timing : Timing) (p : Polling σ) (as bs : List (Action σ)) :
    p.run timing (as ++ bs) = (p.run timing as).run timing bs :=
  List.foldl_append

variable {timing : Timing} {p : Polling σ} {n : Nat}

omit [Store σ] [Directory σ] [Exporter σ] in
theorem tasks_advance {t : Task} (ht : p.tasks[n]? = some t) (r : Task × List Milestone)
    (shared : Shared σ) : (p.advance n r shared).tasks[n]? = some r.1 := by
  obtain ⟨hn, -⟩ := List.getElem?_eq_some_iff.1 ht
  exact List.getElem?_set_self hn

theorem past_stepTick (timing : Timing) {t : Tick} (ht : p.ticks[n]? = some t) :
    (p.act timing (.stepTick n)).past = p.past ++ t.milestones timing p.shared := by
  simp only [act, ht]

theorem act_beginCheck {t : Task} (ht : p.tasks[n]? = some t) (program : Option Program)
    (now : Time) :
    p.act timing (.beginCheck n program now) =
      p.advance n (t.beginCheck p.shared.stopping timing.budgetGrace program now) p.shared := by
  simp only [act, ht]
  rfl

theorem act_endCheck {t : Task} (ht : p.tasks[n]? = some t) (waits : Nat) (now : Time) :
    p.act timing (.endCheck n waits now) = p.advance n (t.endCheck waits now) p.shared := by
  simp only [act, ht]
  rfl

theorem act_effect {t : Task} (ht : p.tasks[n]? = some t) (now : Time) :
    p.act timing (.effect n now) =
      p.advance n ((t.recordStep now p.shared).1, t.milestones now p.shared)
        (t.recordStep now p.shared).2 := by
  simp only [act, ht]

end Polling

/-! ### Polling a small world -/

namespace Sample

/-- A tick takes the item and launches its dispatch. -/
def launch : List (Action (World MemoryStore)) :=
  .startTick .epoch :: List.replicate 6 (.stepTick 0)

/-- The dispatch goes on until its check is under way. -/
def check : List (Action (World MemoryStore)) :=
  launch ++ [.beginCheck 0 (some (.finish (.outcome .pass))) .epoch]

/-- The dispatch goes on until it is over. -/
def dispatch : List (Action (World MemoryStore)) :=
  check ++ [.endCheck 0 0 .epoch, .effect 0 .epoch, .dropTask 0]

/-- A retest goes on until it has loaded the item. -/
def retest : List (Action (World MemoryStore)) := [.startRetest item.id, .stepRetest 0 .epoch]

/-- A retest of the item is written while its check is under way. -/
def retestInFlight : List (Action (World MemoryStore)) := check ++ retest ++ [.stepRetest 0 .epoch]

/-- The item as a retest at the start of 1970 writes it. -/
def retested : Item := (item.forRetest? .epoch).getD item

end Sample

end Vigil
