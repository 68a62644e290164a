import Vigil.Proofs.Polling.Claims
import Vigil.Proofs.Store.World

/-!
# The lane of one item

Only one holder of the claim on an item works on it at a time, so all that happens
to the item goes through a lane of its own: the item as it is stored, and the copy of
it that the holder has. `Lane.Step` lists all that can happen there, with the
milestones that it leaves. Every action of a polling is such a step in the lane of
every item (`Polling.lane_act`), and a run of actions is a run of the lane.
-/

namespace Vigil

/-! ### Lanes -/

/-- Two copies of an item that agree but for the times. -/
structure Item.SameFindings (i j : Item) : Prop where
  settings : i.settings = j.settings
  state : i.progress.state = j.progress.state
  readings : i.progress.readings = j.progress.readings

namespace Item.SameFindings

variable {i j k : Item}

theorem refl (i : Item) : i.SameFindings i := ⟨rfl, rfl, rfl⟩

theorem symm (h : i.SameFindings j) : j.SameFindings i :=
  ⟨h.settings.symm, h.state.symm, h.readings.symm⟩

theorem trans (h : i.SameFindings j) (hj : j.SameFindings k) : i.SameFindings k :=
  ⟨h.settings.trans hj.settings, h.state.trans hj.state, h.readings.trans hj.readings⟩

end Item.SameFindings

/-- How far the dispatch of an item is. -/
inductive Flight where
  /-- Its check has not begun. -/
  | waiting
  | checking (m : Readings) (p : Program) (budget : Duration)
  /-- It has only these writes ahead. -/
  | ending (writes : List Item)

/-- What the holder of the claim on an item works on. -/
inductive Copy where
  | claimed
  /-- A tick has loaded the item, and goes on to write its times. -/
  | loaded (item : Item)
  /-- A tick goes on to launch the dispatch, if the delay is in range. -/
  | armed (item : Item) (inRange : Bool)
  | flying (item : Item) (flight : Flight)

namespace Copy

def isFlying : Copy → Bool
  | flying _ _ => true
  | _ => false

end Copy

/-- An item as it is stored, the copy that is worked on, and whether the scheduler is
shutting down. -/
structure Lane where
  stored : Option Item
  copy : Option Copy
  stopping : Bool

namespace Lane

/-- What can happen to an item, and the milestones of it. -/
inductive Step : Lane → List Milestone → Lane → Prop where
  | same (l : Lane) : Step l [] l
  | stop (i : Option Item) (c : Option Copy) (b : Bool) : Step ⟨i, c, b⟩ [] ⟨i, c, true⟩
  | claim (i : Option Item) (b : Bool) : Step ⟨i, none, b⟩ [] ⟨i, some .claimed, b⟩
  | load {old item : Item} (b : Bool) (h : item.SameFindings old) :
      Step ⟨some old, some .claimed, b⟩ [.loaded item] ⟨some old, some (.loaded item), b⟩
  | giveUp (i : Option Item) {c : Copy} (b : Bool) (h : c.isFlying = false) :
      Step ⟨i, some c, b⟩ [] ⟨i, none, b⟩
  | rearm (old item : Item) (b inRange : Bool) :
      Step ⟨some old, some (.loaded item), b⟩ [.rearmed item]
        ⟨some { old with
            progress := { old.progress with
              nextDue := item.progress.nextDue
              lastRun := item.progress.lastRun } },
          some (.armed item inRange), b⟩
  | pass (i : Option Item) (item : Item) (b inRange : Bool) :
      Step ⟨i, some (.loaded item), b⟩ [] ⟨i, some (.armed item inRange), b⟩
  | launch (i : Option Item) (item : Item) (b : Bool) :
      Step ⟨i, some (.armed item true), b⟩ [.launched item] ⟨i, some (.flying item .waiting), b⟩
  | quit (i : Option Item) (item : Item) (b : Bool) :
      Step ⟨i, some (.flying item .waiting), b⟩ [] ⟨i, some (.flying item (.ending [])), b⟩
  | unknown (i : Option Item) (item : Item) :
      Step ⟨i, some (.flying item .waiting), false⟩ [.checked item.id .unknown]
        ⟨i, some (.flying item (.ending [item.checked .unknown])), false⟩
  | probe (i : Option Item) (item : Item) (p : Program) (budget : Duration) :
      Step ⟨i, some (.flying item .waiting), false⟩ []
        ⟨i, some (.flying item (.checking item.progress.readings p budget)), false⟩
  | conclude (i : Option Item) (item : Item) (m : Readings) (p : Program) (budget : Duration)
      (waits : Nat) (b : Bool) :
      Step ⟨i, some (.flying item (.checking m p budget)), b⟩
        [.checked item.id (.probed p budget waits)]
        ⟨i, some (.flying item
          (.ending [(Dispatch.conclude item (p.endAfter budget waits m)).1])), b⟩
  | persist (old item new : Item) (rest : List Item) (b : Bool) :
      Step ⟨some old, some (.flying item (.ending (new :: rest))), b⟩ [.persisted new]
        ⟨some { old with progress := new.progress }, some (.flying item (.ending rest)), b⟩
  | lose (i : Option Item) (item new : Item) (rest : List Item) (b : Bool) :
      Step ⟨i, some (.flying item (.ending (new :: rest))), b⟩ [.lost new.id]
        ⟨i, some (.flying item (.ending rest)), b⟩
  | leave (i : Option Item) (item : Item) (flight : Flight) (b : Bool) :
      Step ⟨i, some (.flying item flight), b⟩ [.left item.id] ⟨i, none, b⟩
  | reset (old : Item) (c : Option Copy) (b : Bool) {asked : Time} {loaded new : Item}
      (h : loaded.forRetest? asked = some new) :
      Step ⟨some old, c, b⟩ [.reset asked new] ⟨some { old with progress := new.progress }, c, b⟩

/-- Steps one after another. -/
inductive Run : Lane → List Milestone → Lane → Prop where
  | nil (l : Lane) : Run l [] l
  | cons {l m n : Lane} {ms ns : List Milestone} : Step l ms m → Run m ns n → Run l (ms ++ ns) n

end Lane

/-! ### Dispatches -/

/-- The item that an effect writes. -/
def Effect.written? : Effect → Option Item
  | persist i => some i
  | _ => none

theorem Effect.written?_eq_none {e : Effect} (he : ∀ i, e ≠ .persist i) : e.written? = none := by
  cases e with
  | persist i => exact absurd rfl (he i)
  | _ => rfl

namespace Dispatch

/-- What follows from a check is a single write, of the item as the check leaves it. -/
theorem writes_settle (item : Item) (c : Conclusion) (now : Time) :
    (settle item c now).2.filterMap Effect.written? = [(conclude item c).1] := by
  have hcrash : (crashEffects item c).filterMap Effect.written? = [] := by
    cases c <;> rfl
  have hannounce (i : Item) (t : Option Transition) :
      (announceEffects i t).filterMap Effect.written? = [] := by
    cases t with
    | none => rfl
    | some t =>
        simp only [announceEffects]
        split <;> rfl
  have hrecord (i : Item) (b : Bool) (time : Time) :
      (recordEffects i b time).filterMap Effect.written? = [] := by
    unfold recordEffects
    split <;> split <;> rfl
  simp only [settle, List.filterMap_append, hcrash, hannounce, hrecord, List.nil_append]
  rfl

end Dispatch

namespace Task

/-- What a dispatch has still to write. -/
def writes (t : Task) : List Item :=
  match t.phase with
  | .recording _ es _ => es.filterMap Effect.written?
  | _ => []

def flight (t : Task) : Flight :=
  match t.phase with
  | .delayed _ => .waiting
  | .checking m p budget => .checking m p budget
  | .recording _ es _ => .ending (es.filterMap Effect.written?)
  | .over _ => .ending []

/-- A dispatch writes its own item only. -/
def Own (t : Task) : Prop := ∀ i ∈ t.writes, i.id = t.item.id

theorem phase_conclude (t : Task) (c : Conclusion) (now : Time) :
    (t.conclude c now).phase =
      .recording "" (Dispatch.settle t.item c now).2 (Dispatch.settle t.item c now).1 := rfl

theorem flight_conclude (t : Task) (c : Conclusion) (now : Time) :
    (t.conclude c now).flight = .ending [(Dispatch.conclude t.item c).1] := by
  simp only [conclude, goTo, flight, Dispatch.writes_settle]

theorem own_conclude (t : Task) (c : Conclusion) (now : Time) : (t.conclude c now).Own := by
  simp only [Own, conclude, goTo, writes, Dispatch.writes_settle, List.mem_singleton]
  rintro i rfl
  rfl

theorem own_ofLaunch (l : Launch) : (ofLaunch l).Own := by
  simp [Own, ofLaunch, writes]

theorem own_beginCheck {t : Task} (h : t.Own) (stopping : Bool) (grace : Duration)
    (program : Option Program) (now : Time) :
    (t.beginCheck stopping grace program now).1.Own := by
  unfold beginCheck
  split
  · have hbegin : (t.begin stopping grace (program.map fun p _ => p) now).Own := by
      unfold begin
      split
      · simp [Own, goTo, writes]
      · split
        · exact own_conclude t _ now
        · split <;> simp [Own, goTo, writes]
    dsimp only
    split <;> exact hbegin
  · exact h

theorem own_endCheck {t : Task} (h : t.Own) (waits : Nat) (now : Time) :
    (t.endCheck waits now).1.Own := by
  unfold endCheck
  split
  · exact own_conclude t _ now
  · exact h

theorem own_recordStep {σ : Type} [Store σ] [Directory σ] [Exporter σ] {t : Task} (h : t.Own)
    (now : Time) (s : Shared σ) : (t.recordStep now s).1.Own := by
  unfold recordStep
  split
  · simp [Own, goTo, writes]
  · next found e es report hphase =>
    intro i hi
    obtain ⟨effect, heffect, hwritten⟩ := List.mem_filterMap.1 hi
    refine h i ?_
    simp only [writes, hphase]
    exact List.mem_filterMap.2 ⟨effect, List.mem_cons_of_mem e heffect, hwritten⟩
  · exact h

/-! ### Steps of a dispatch in its lane -/

theorem lane_beginCheck {t : Task} (hclaim : t.claimed = true) (i : Option Item) (stopping : Bool)
    (grace : Duration) (program : Option Program) (now : Time) :
    Lane.Step ⟨i, some (.flying t.item t.flight), stopping⟩
      (t.beginCheck stopping grace program now).2
      ⟨i, some (.flying t.item (t.beginCheck stopping grace program now).1.flight), stopping⟩ := by
  cases hphase : t.phase with
  | delayed delay =>
      have hflight : t.flight = .waiting := by simp only [flight, hphase]
      rw [hflight]
      simp only [beginCheck, hphase, begin, hclaim, Bool.true_and]
      cases stopping with
      | true => exact .quit i t.item true
      | false =>
          cases program with
          | none =>
              simp only [Bool.false_eq_true, if_false, Option.map_none, phase_conclude,
                flight_conclude]
              exact .unknown i t.item
          | some p =>
              simp only [Bool.false_eq_true, if_false, Option.map_some]
              cases t.item.settings.budget? grace with
              | none => exact .quit i t.item false
              | some budget => exact .probe i t.item p budget
  | _ =>
      simp only [beginCheck, hphase]
      exact .same _

theorem lane_endCheck (t : Task) (i : Option Item) (stopping : Bool) (waits : Nat) (now : Time) :
    Lane.Step ⟨i, some (.flying t.item t.flight), stopping⟩ (t.endCheck waits now).2
      ⟨i, some (.flying t.item (t.endCheck waits now).1.flight), stopping⟩ := by
  cases hphase : t.phase with
  | checking m p budget =>
      have hflight : t.flight = .checking m p budget := by simp only [flight, hphase]
      rw [hflight]
      simp only [endCheck, hphase, flight_conclude]
      exact .conclude i t.item m p budget waits stopping
  | _ =>
      simp only [endCheck, hphase]
      exact .same _

section

variable {σ : Type} [Store σ] [Directory σ] [Exporter σ] {t : Task}
variable {found : String} {e : Effect} {es : List Effect} {report : Report}

theorem phase_recordStep_cons (h : t.phase = .recording found (e :: es) report) (now : Time)
    (s : Shared σ) :
    (t.recordStep now s).1.phase = .recording (e.perform now found s.world).1 es report := by
  simp only [recordStep, h, goTo]

/-- What an effect writes is gone from what is left to be written. -/
theorem flight_recordStep_cons (h : t.phase = .recording found (e :: es) report) (now : Time)
    (s : Shared σ) : (t.recordStep now s).1.flight = .ending (es.filterMap Effect.written?) := by
  simp only [recordStep, h, goTo, flight]

theorem world_recordStep_cons (h : t.phase = .recording found (e :: es) report) (now : Time)
    (s : Shared σ) : (t.recordStep now s).2.world = (e.attempt now found s.world).2 := by
  simp only [recordStep, h, Effect.perform]
  split <;> next heq => rw [heq]

theorem milestones_of_not_persist (h : t.phase = .recording found (e :: es) report)
    (he : ∀ i, e ≠ .persist i) (now : Time) (s : Shared σ) : t.milestones now s = [] := by
  unfold milestones
  rw [h]
  cases e with
  | persist i => exact absurd rfl (he i)
  | _ => rfl

end

theorem stopping_recordStep {σ : Type} [Store σ] [Directory σ] [Exporter σ] (t : Task)
    (now : Time) (s : Shared σ) : (t.recordStep now s).2.stopping = s.stopping := by
  unfold recordStep
  split <;> rfl

theorem mem_writes_of_persist {new : Item} {t : Task} {found : String} {es : List Effect}
    {report : Report} (h : t.phase = .recording found (.persist new :: es) report) :
    new ∈ t.writes := by
  simp only [writes, h, List.filterMap_cons, Effect.written?]
  exact List.mem_cons_self

/-- A step leaves the items as they are, or it writes what the dispatch has found, or it
fails to. -/
theorem recordStep_cases (t : Task) (now : Time) (s : Shared (World MemoryStore)) :
    (World.SameItems s.world (t.recordStep now s).2.world ∧ t.milestones now s = [] ∧
      (t.recordStep now s).1.flight = t.flight) ∨
    ∃ new rest, new ∈ t.writes ∧ t.flight = .ending (new :: rest) ∧
      (t.recordStep now s).1.flight = .ending rest ∧
      ((World.Writes new.id (fun _ => new.progress) s.world (t.recordStep now s).2.world ∧
          t.milestones now s = [.persisted new]) ∨
        ((t.recordStep now s).2.world = s.world ∧ t.milestones now s = [.lost new.id])) := by
  cases hphase : t.phase with
  | recording found es report =>
      cases es with
      | nil =>
          simp only [milestones, recordStep, hphase, flight, goTo]
          exact Or.inl ⟨.refl _, trivial, rfl⟩
      | cons e es =>
          rw [flight_recordStep_cons hphase, world_recordStep_cons hphase]
          by_cases hpersist : ∃ new, e = .persist new
          · obtain ⟨new, rfl⟩ := hpersist
            have hflight : t.flight = .ending (new :: es.filterMap Effect.written?) := by
              simp only [flight, hphase, List.filterMap_cons, Effect.written?]
            refine Or.inr ⟨new, _, mem_writes_of_persist hphase, hflight, rfl, ?_⟩
            simp only [milestones, hphase]
            rcases World.persist_cases new now found s.world with
              ⟨world, hok, hwrites⟩ | ⟨error, herror⟩
            · rw [hok]
              exact Or.inl ⟨hwrites, rfl⟩
            · rw [herror]
              exact Or.inr ⟨rfl, rfl⟩
          · have hother : ∀ i, e ≠ .persist i := fun i hi => hpersist ⟨i, hi⟩
            have hflight : t.flight = .ending (es.filterMap Effect.written?) := by
              simp only [flight, hphase, List.filterMap_cons, Effect.written?_eq_none hother]
            rw [hflight]
            exact Or.inl ⟨World.sameItems_attempt hother now found s.world,
              milestones_of_not_persist hphase hother now s, rfl⟩
  | _ =>
      simp only [milestones, recordStep, hphase]
      exact Or.inl ⟨.refl _, trivial, trivial⟩

section

variable {t : Task} (hown : t.Own) (now : Time) (s : Shared (World MemoryStore))

include hown

theorem lane_recordStep :
    Lane.Step ⟨s.world.item? t.item.id, some (.flying t.item t.flight), s.stopping⟩
      (t.milestones now s)
      ⟨(t.recordStep now s).2.world.item? t.item.id,
        some (.flying t.item (t.recordStep now s).1.flight), s.stopping⟩ := by
  rcases recordStep_cases t now s with
    ⟨hsame, hnone, hflight⟩ | ⟨new, rest, hnew, hbefore, hafter, hwritten⟩
  · rw [hsame.item?, hnone, hflight]
    exact .same _
  · rw [hbefore, hafter, ← hown new hnew]
    rcases hwritten with ⟨hwrites, hpersisted⟩ | ⟨hworld, hlost⟩
    · obtain ⟨old, hold, hstored⟩ := hwrites.item?
      rw [hold, hstored, hpersisted]
      exact .persist old t.item new rest s.stopping
    · rw [hworld, hlost]
      exact .lose _ t.item new rest s.stopping

/-- The effects of a dispatch leave other items as they are. -/
theorem item?_recordStep {id : Uuid} (hid : t.item.id ≠ id) :
    (t.recordStep now s).2.world.item? id = s.world.item? id := by
  rcases recordStep_cases t now s with
    ⟨hsame, -⟩ | ⟨new, rest, hnew, -, -, ⟨hwrites, -⟩ | ⟨hworld, -⟩⟩
  · exact hsame.item? id
  · refine hwrites.others id ?_
    rw [hown new hnew]
    exact hid.symm
  · rw [hworld]

/-- The milestones of a step are about the item of the dispatch. -/
theorem subject_milestones : ∀ m ∈ t.milestones now s, m.subject = t.item.id := by
  rcases recordStep_cases t now s with
    ⟨-, hnone, -⟩ | ⟨new, rest, hnew, -, -, ⟨-, hpersisted⟩ | ⟨-, hlost⟩⟩
  · simp [hnone]
  · simpa [hpersisted] using hown new hnew
  · simpa [hlost] using hown new hnew

end

theorem afterItems_recordStep (t : Task) (now : Time) (s : Shared (World MemoryStore)) :
    (t.recordStep now s).2.world.store.afterItems = s.world.store.afterItems := by
  rcases recordStep_cases t now s with
    ⟨hsame, -⟩ | ⟨new, rest, -, -, -, ⟨hwrites, -⟩ | ⟨hworld, -⟩⟩
  · exact hsame.afterItems
  · exact hwrites.afterItems
  · rw [hworld]

theorem milestones_beginCheck (t : Task) (stopping : Bool) (grace : Duration)
    (program : Option Program) (now : Time) :
    (t.beginCheck stopping grace program now).2 = [] ∨
      ∃ c, (t.beginCheck stopping grace program now).2 = [.checked t.item.id c] := by
  unfold beginCheck
  split
  · dsimp only
    split
    · exact .inr ⟨_, rfl⟩
    · exact .inl rfl
  · exact .inl rfl

theorem milestones_endCheck (t : Task) (waits : Nat) (now : Time) :
    (t.endCheck waits now).2 = [] ∨ ∃ c, (t.endCheck waits now).2 = [.checked t.item.id c] := by
  unfold endCheck
  split
  · exact .inr ⟨_, rfl⟩
  · exact .inl rfl

theorem subject_beginCheck (t : Task) (stopping : Bool) (grace : Duration)
    (program : Option Program) (now : Time) :
    ∀ m ∈ (t.beginCheck stopping grace program now).2, m.subject = t.item.id := by
  rcases milestones_beginCheck t stopping grace program now with hnone | ⟨c, hchecked⟩
  · simp [hnone]
  · simp [hchecked]

theorem subject_endCheck (t : Task) (waits : Nat) (now : Time) :
    ∀ m ∈ (t.endCheck waits now).2, m.subject = t.item.id := by
  rcases milestones_endCheck t waits now with hnone | ⟨c, hchecked⟩
  · simp [hnone]
  · simp [hchecked]

end Task

/-! ### Steps of a tick in a lane -/

namespace Tick

/-- The copy of an item that a tick works on. -/
def copy? (timing : Timing) (id : Uuid) (t : Tick) : Option Copy :=
  match t.stage with
  | .reload claim _ => if claim = id then some .claimed else none
  | .reschedule claim item _ => if claim = id then some (.loaded item) else none
  | .launch claim item _ =>
    if claim = id then some (.armed item (t.delay? timing).isSome) else none
  | _ => none

/-- A tick that has a copy of an item holds the claim on it. -/
theorem guard?_of_copy? {timing : Timing} {id : Uuid} {t : Tick}
    (h : (t.copy? timing id).isSome = true) : t.guard? = some id := by
  unfold copy? at h
  unfold guard?
  cases hstage : t.stage <;> simp_all

theorem isSome_copy? {timing : Timing} {id : Uuid} {t : Tick} (h : t.guard? = some id) :
    (t.copy? timing id).isSome = true := by
  unfold guard? at h
  unfold copy?
  cases hstage : t.stage <;> simp_all

theorem isFlying_copy? {timing : Timing} {id : Uuid} {t : Tick} {c : Copy}
    (h : t.copy? timing id = some c) : c.isFlying = false := by
  unfold copy? at h
  split at h
  · split at h <;> cases h
    rfl
  · split at h <;> cases h
    rfl
  · split at h <;> cases h
    rfl
  · cases h

end Tick

/-- The copy of an item that a dispatch works on. -/
def Task.copy? (id : Uuid) (t : Task) : Option Copy :=
  if t.item.id = id then some (.flying t.item t.flight) else none

/-- The milestones of one item. -/
def Milestone.about (id : Uuid) (ms : List Milestone) : List Milestone :=
  ms.filter fun m => m.subject == id

namespace Milestone

theorem about_append (id : Uuid) (ms ns : List Milestone) :
    about id (ms ++ ns) = about id ms ++ about id ns :=
  List.filter_append ..

theorem about_eq_self {id : Uuid} {ms : List Milestone} (h : ∀ m ∈ ms, m.subject = id) :
    about id ms = ms :=
  List.filter_eq_self.2 fun m hm => beq_iff_eq.2 (h m hm)

theorem about_eq_nil {id other : Uuid} {ms : List Milestone} (h : ∀ m ∈ ms, m.subject = other)
    (hne : other ≠ id) : about id ms = [] :=
  List.filter_eq_nil_iff.2 fun m hm hid => hne ((h m hm).symm.trans (beq_iff_eq.1 hid))

end Milestone

namespace Tick

theorem rearm?_sameFindings {t : Tick} {item new : Item} (h : t.rearm? item = some new) :
    new.SameFindings item := by
  obtain ⟨moved, hmoved, rfl⟩ := Option.map_eq_some_iff.1 h
  obtain ⟨due, -, rfl⟩ := Option.map_eq_some_iff.1 hmoved
  exact ⟨rfl, rfl, rfl⟩

variable {timing : Timing} {t : Tick} {s : Shared (World MemoryStore)} {id : Uuid}

theorem copy?_eq_none (timing : Timing) (id : Uuid) (h : t.guard? = none) :
    t.copy? timing id = none := by
  cases hcopy : t.copy? timing id with
  | none => rfl
  | some c =>
      have hguard := guard?_of_copy? (t := t) (by rw [hcopy, Option.isSome_some])
      rw [h] at hguard
      cases hguard

/-- A tick that loads what it has claimed goes on with it, or gives the claim back. -/
theorem reload_cases (timing : Timing) {claim : Uuid} {rest : List Item}
    (hstage : t.stage = .reload claim rest) :
    (t.step timing s).2.1.world = s.world ∧
      ((∃ old new, s.world.item? claim = some old ∧ new.SameFindings old ∧ new.id = claim ∧
          (t.step timing s).1.stage = .reschedule claim new rest) ∨
        (t.step timing s).1.guard? = none) := by
  simp only [step, hstage, reloadStep]
  rcases World.get?_cases claim s.world with hget | ⟨e, hget⟩
  · rw [hget]
    cases hitem : s.world.item? claim with
    | none => exact ⟨rfl, Or.inr rfl⟩
    | some old =>
        dsimp only
        split
        · cases hnew : t.rearm? old with
          | none => exact ⟨rfl, Or.inr rfl⟩
          | some new =>
              have hid : new.id = claim := (rearm?_id hnew).trans (World.id_of_item? hitem)
              exact ⟨rfl, Or.inl ⟨old, new, rfl, rearm?_sameFindings hnew, hid, rfl⟩⟩
        · exact ⟨rfl, Or.inr rfl⟩
  · rw [hget]
    exact ⟨rfl, Or.inr rfl⟩

theorem lane_reload (timing : Timing) (id : Uuid) {claim : Uuid} {rest : List Item}
    (hstage : t.stage = .reload claim rest) {o : Option Copy} (ho : claim = id → o = none) :
    Lane.Step ⟨s.world.item? id, (t.copy? timing id).or o, s.stopping⟩
      (Milestone.about id (t.milestones timing s))
      ⟨(t.step timing s).2.1.world.item? id, ((t.step timing s).1.copy? timing id).or o,
        s.stopping⟩ := by
  obtain ⟨hworld, ⟨old, new, hold, hfindings, hnew, hnext⟩ | hnext⟩ :=
    reload_cases (s := s) timing hstage
  · have hloaded : t.milestones timing s = [.loaded new] := by
      simp only [milestones, hstage, hnext]
    rw [hworld, hloaded]
    simp only [copy?, hstage, hnext]
    by_cases hid : claim = id
    · subst hid
      rw [ho rfl, if_pos rfl, if_pos rfl, hold,
        Milestone.about_eq_self (by simpa using hnew)]
      exact .load s.stopping hfindings
    · rw [if_neg hid, if_neg hid, Milestone.about_eq_nil (by simpa using hnew) hid]
      exact .same _
  · have hnothing : t.milestones timing s = [] := by
      cases hstage' : (t.step timing s).1.stage <;> simp_all [milestones, guard?]
    rw [hworld, hnothing, copy?_eq_none _ _ hnext]
    simp only [copy?, hstage]
    by_cases hid : claim = id
    · rw [ho hid, if_pos hid]
      exact .giveUp _ _ rfl
    · rw [if_neg hid]
      exact .same _

theorem lane_reschedule (timing : Timing) (id : Uuid) {claim : Uuid} {item : Item}
    {rest : List Item} (hstage : t.stage = .reschedule claim item rest) (hitem : item.id = claim)
    {o : Option Copy} (ho : claim = id → o = none) :
    Lane.Step ⟨s.world.item? id, (t.copy? timing id).or o, s.stopping⟩
      (Milestone.about id (t.milestones timing s))
      ⟨(t.step timing s).2.1.world.item? id, ((t.step timing s).1.copy? timing id).or o,
        s.stopping⟩ := by
  subst hitem
  simp only [milestones, step, hstage, rescheduleStep, goTo, copy?]
  rcases World.reschedule_cases item.id item.progress.nextDue item.progress.lastRun s.world with
    ⟨world, hok, hwrites⟩ | ⟨e, herror⟩
  · rw [hok]
    by_cases hid : item.id = id
    · subst hid
      obtain ⟨old, hold, hnew⟩ := hwrites.item?
      rw [ho rfl, if_pos rfl, if_pos rfl, hold, hnew, Milestone.about_eq_self (by simp)]
      exact .rearm old item s.stopping _
    · rw [if_neg hid, if_neg hid, Milestone.about_eq_nil (by simp) hid,
        hwrites.others id (Ne.symm hid)]
      exact .same _
  · rw [herror]
    by_cases hid : item.id = id
    · rw [ho hid, if_pos hid, if_pos hid]
      exact .pass _ item s.stopping _
    · rw [if_neg hid, if_neg hid]
      exact .same _

/-- The copy of an item in the hands of a dispatch that was launched just now. -/
def launchedCopy? (id : Uuid) (launch : Option Launch) : Option Copy :=
  (launch.map Task.ofLaunch).bind (Task.copy? id)

theorem lane_launch {claim : Uuid} {item : Item} {rest : List Item}
    (hstage : t.stage = .launch claim item rest) (hitem : item.id = claim)
    {o : Option Copy} (ho : claim = id → o = none) :
    Lane.Step ⟨s.world.item? id, (t.copy? timing id).or o, s.stopping⟩
      (Milestone.about id (t.milestones timing s))
      ⟨(t.step timing s).2.1.world.item? id,
        ((t.step timing s).1.copy? timing id).or
          ((launchedCopy? id (t.step timing s).2.2).or o), s.stopping⟩ := by
  subst hitem
  simp only [milestones, step, hstage, launchStep, copy?, launchedCopy?]
  cases hdelay : t.delay? timing with
  | some delay =>
      simp only [Option.map_some, Option.bind_some, Task.copy?, Task.ofLaunch, Task.flight,
        Option.isSome_some, Option.none_or]
      by_cases hid : item.id = id
      · rw [ho hid, if_pos hid, if_pos hid, Milestone.about_eq_self (by simpa using hid)]
        exact .launch _ item s.stopping
      · rw [if_neg hid, if_neg hid, Milestone.about_eq_nil (by simp) hid]
        exact .same _
  | none =>
      simp only [goTo, Option.map_none, Option.bind_none, Option.none_or]
      by_cases hid : item.id = id
      · rw [ho hid, if_pos hid]
        exact .giveUp _ _ rfl
      · rw [if_neg hid]
        exact .same _

/-- A step of a tick in the lane of an item, where `o` is the copy of the item that
others have. There is none if the tick holds the claim on the item or can take it. -/
theorem lane_step (timing : Timing) (id : Uuid) (hkeyed : t.Keyed)
    (hhooks : s.world.store.afterItems = []) {o : Option Copy}
    (hguard : t.guard? = some id → o = none) (hfree : s.claims.holds id = false → o = none) :
    Lane.Step ⟨s.world.item? id, (t.copy? timing id).or o, s.stopping⟩
      (Milestone.about id (t.milestones timing s))
      ⟨(t.step timing s).2.1.world.item? id,
        ((t.step timing s).1.copy? timing id).or
          ((launchedCopy? id (t.step timing s).2.2).or o), s.stopping⟩ := by
  cases hstage : t.stage with
  | enumerate =>
      have hsame := (World.sameItems_items hhooks).item? id
      simp only [milestones, step, hstage, enumerateStep, copy?]
      split
      · next hitems =>
        rw [hitems] at hsame
        dsimp only at hsame ⊢
        rw [hsame]
        exact .same _
      · next hitems =>
        rw [hitems] at hsame
        dsimp only at hsame ⊢
        rw [hsame]
        exact .same _
  | claim rest =>
      cases rest with
      | nil =>
          simp only [milestones, step, hstage, copy?]
          exact .same _
      | cons candidate rest =>
          simp only [milestones, step, hstage, claimStep, copy?]
          cases hclaim : s.claims.claim? candidate.id with
          | none => exact .same _
          | some claims =>
              dsimp only [goTo]
              by_cases hid : candidate.id = id
              · have hnone : s.claims.claim? id ≠ none := by
                  rw [← hid, hclaim]
                  simp
                have hunclaimed := Bool.eq_false_iff.2 (Claims.claim?_eq_none_iff.not.1 hnone)
                rw [hfree hunclaimed, if_pos hid]
                exact .claim _ _
              · rw [if_neg hid]
                exact .same _
  | reload claim rest =>
      have hlane := lane_reload (s := s) timing id hstage (o := o)
        (fun hid => hguard (by simp only [guard?, hstage, hid]))
      have hlaunch : (t.step timing s).2.2 = none := by simp only [step, hstage]
      rw [hlaunch]
      exact hlane
  | reschedule claim item rest =>
      have hitem : item.id = claim := by simpa only [Keyed, hstage] using hkeyed
      have hlane := lane_reschedule (s := s) timing id hstage hitem (o := o)
        (fun hid => hguard (by simp only [guard?, hstage, hid]))
      have hlaunch : (t.step timing s).2.2 = none := by simp only [step, hstage]
      rw [hlaunch]
      exact hlane
  | launch claim item rest =>
      have hitem : item.id = claim := by simpa only [Keyed, hstage] using hkeyed
      exact lane_launch hstage hitem (fun hid => hguard (by simp only [guard?, hstage, hid]))
  | done =>
      simp only [milestones, step, hstage, copy?]
      exact .same _
  | overflowed =>
      simp only [milestones, step, hstage, copy?]
      exact .same _

end Tick

end Vigil
