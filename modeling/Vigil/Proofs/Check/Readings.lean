import Vigil.Proofs.Check.Story
import Vigil.Proofs.Check.Verdict
import Vigil.Scheduler.Task

/-!
# What a dispatch leaves of the readings

The readings of an item are moved into its check and back out of it, however the check ends.
Laid out in time a probe is a `Course`: its edits, each at a moment, and its end, if it comes to
one. A dispatch stores the readings after the edits that were made in time, and the text of the
failure with them if the probe broke down or was cut off. So the readings of an item are those
that were saved, folded with what each of its dispatches makes of them.
-/

namespace Vigil

/-! ### Probes in time -/

/-- What a probe does in a check, at nanoseconds after its start. -/
structure Course where
  edits : List (Nat × Edit)
  /-- It is `none` if the probe goes on for ever. -/
  ending : Option (Nat × Ending)

namespace Course

/-- The readings after the edits up to a moment. -/
def readingsBy (c : Course) (moment : Nat) (m : Readings) : Readings :=
  ((c.edits.filter (·.1 ≤ moment)).map Prod.snd).foldl Edit.apply m

/-- The end of the probe, if it comes up to a moment. -/
def endingBy (c : Course) (moment : Nat) : Option Ending :=
  (c.ending.filter (·.1 ≤ moment)).map Prod.snd

/-- The outcome of a check that may take as long as `budget`, and the readings that it leaves. -/
def verdict (budget : Duration) (m : Readings) (c : Course) : Outcome × Readings :=
  Ending.verdictWithin budget (c.readingsBy budget.nanos m) (c.endingBy budget.nanos)

/-- Nothing is done before a moment, and the edits and the end come in the order of time. -/
def InOrder (start : Nat) : List (Nat × Edit) → Option (Nat × Ending) → Prop
  | [], ending => ∀ e ∈ ending, start ≤ e.1
  | e :: edits, ending => start ≤ e.1 ∧ InOrder e.1 edits ending

end Course

namespace Program

/-- What a program does that starts at a moment, and whose gates stay closed. -/
def course (start : Nat) : Program → Course
  | finish e => ⟨[], some (start, e)⟩
  | edit e rest => { rest.course start with edits := (start, e) :: (rest.course start).edits }
  | sleep d rest => rest.course (start + d.nanos)
  | await _ => ⟨[], none⟩

/-- The program that does something at given moments. -/
def ofCourse (start : Nat) : List (Nat × Edit) → Option (Nat × Ending) → Program
  | [], none => await (finish (.outcome .indeterminate))
  | [], some (moment, e) => sleep ⟨moment - start⟩ (finish e)
  | (moment, e) :: edits, ending =>
    sleep ⟨moment - start⟩ (edit e (ofCourse moment edits ending))

/-- Whatever is done in the order of time is done by a program. -/
theorem course_ofCourse {start : Nat} {edits : List (Nat × Edit)} {ending : Option (Nat × Ending)}
    (h : Course.InOrder start edits ending) :
    (ofCourse start edits ending).course start = ⟨edits, ending⟩ := by
  induction edits generalizing start with
  | nil =>
      cases ending with
      | none => rfl
      | some e =>
          have hmoment : start + (e.1 - start) = e.1 := Nat.add_sub_cancel' (h e rfl)
          simp only [ofCourse, course, hmoment]
  | cons e edits ih =>
      obtain ⟨hle, hrest⟩ := h
      have hmoment : start + (e.1 - start) = e.1 := Nat.add_sub_cancel' hle
      simp only [ofCourse, course, hmoment, ih hrest]

theorem start_le_course (start : Nat) (p : Program) :
    (∀ e ∈ (p.course start).edits, start ≤ e.1) ∧ ∀ e ∈ (p.course start).ending, start ≤ e.1 := by
  induction p generalizing start with
  | finish e =>
      refine ⟨List.forall_mem_nil _, ?_⟩
      rintro _ ⟨⟩
      exact Nat.le_refl _
  | edit e rest ih => exact ⟨List.forall_mem_cons.2 ⟨Nat.le_refl _, (ih start).1⟩, (ih start).2⟩
  | sleep d rest ih =>
      obtain ⟨hedits, hending⟩ := ih (start + d.nanos)
      exact ⟨fun e he => Nat.le_of_add_right_le (hedits e he),
        fun e he => Nat.le_of_add_right_le (hending e he)⟩
  | await rest => exact ⟨List.forall_mem_nil _, fun e he => by cases he⟩

/-- What starts after a moment has done nothing up to it. -/
theorem course_of_lt {start moment : Nat} (h : moment < start) (p : Program) (m : Readings) :
    (p.course start).readingsBy moment m = m ∧ (p.course start).endingBy moment = none := by
  obtain ⟨hedits, hending⟩ := start_le_course start p
  constructor
  · have hnone : (p.course start).edits.filter (·.1 ≤ moment) = [] :=
      List.filter_eq_nil_iff.2 fun e he => by
        have := hedits e he
        simp only [decide_eq_true_eq]
        omega
    rw [Course.readingsBy, hnone]
    rfl
  · rw [Course.endingBy]
    cases heq : (p.course start).ending with
    | none => rfl
    | some e =>
        have hlate : ¬e.1 ≤ moment := by
          have := hending e heq
          omega
        rw [Option.filter_some, if_neg (by simpa using hlate)]
        rfl

/-- A program that has some of its budget left comes to what it does in this time. -/
theorem interpret_run (item : Item) (budget : Duration) (p : Program) {start : Nat}
    (h : start ≤ budget.nanos) (m : Readings) :
    Dispatch.interpret item (p.run budget (budget.nanos - start) m) =
      (p.course start).verdict budget m := by
  induction p generalizing start m with
  | finish e =>
      have hends : ((finish e).course start).endingBy budget.nanos = some e := by
        simp [course, Course.endingBy, h]
      rw [Course.verdict, hends]
      exact Dispatch.interpret_conclude item budget e m
  | edit e rest ih =>
      have hreadings : ((edit e rest).course start).readingsBy budget.nanos m =
          (rest.course start).readingsBy budget.nanos (e.apply m) := by
        simp [course, Course.readingsBy, h]
      rw [run, ih h, Course.verdict, Course.verdict, hreadings]
      rfl
  | sleep d rest ih =>
      by_cases hleft : d.nanos ≤ budget.nanos - start
      · have hin : start + d.nanos ≤ budget.nanos := by omega
        rw [run, if_pos hleft, Nat.sub_sub, ih hin, course]
      · have hlate : budget.nanos < start + d.nanos := by omega
        obtain ⟨hreadings, hends⟩ := course_of_lt hlate rest m
        rw [run, if_neg hleft, course, Course.verdict, hreadings, hends]
        rfl
  | await rest => rfl

theorem interpret_conclude (item : Item) (budget : Duration) (p : Program) (m : Readings) :
    Dispatch.interpret item (p.conclude budget m) = (p.course 0).verdict budget m :=
  interpret_run item budget p (Nat.zero_le _) m

end Program

/-! ### Effects on a store that works -/

namespace World

variable {w : World MemoryStore}

/-- A call that does not switch the store off leaves it working. -/
theorem healthy_call {α : Type} {f : MemoryStore → Except StoreError (α × MemoryStore)}
    (hf : ∀ s a t, f s = .ok (a, t) → t.switchedOff = s.switchedOff) (hw : w.Healthy)
    (c : StoreCall) : (call c (MemoryStore.whenOn f) w).2.Healthy := by
  rw [call_of_not_fails (hw.fails c)]
  refine ⟨hw.fails, ?_⟩
  cases h : f w.store.inner with
  | ok r =>
      rw [MemoryStore.whenOn_of_ok hw.switchedOff h]
      exact (hf _ _ _ h).trans hw.switchedOff
  | error e =>
      rw [MemoryStore.whenOn_of_error hw.switchedOff h]
      exact hw.switchedOff

theorem healthy_of_store {v : World MemoryStore} (h : v.store = w.store) (hw : w.Healthy) :
    v.Healthy := by
  refine ⟨?_, ?_⟩ <;> rw [h]
  · exact hw.fails
  · exact hw.switchedOff

theorem healthy_perform (hw : w.Healthy) (e : Effect) (now : Time) (found : String) :
    (e.perform now found w).2.Healthy := by
  rw [Effect.snd_perform]
  cases e with
  | findNode node =>
      rw [Effect.snd_attempt_findNode]
      exact healthy_call (by rintro s a t ⟨⟩; rfl) hw (.nodeName node)
  | logEvent category level subject name message =>
      rw [Effect.attempt, Effect.snd_ofAccess]
      exact healthy_call (by rintro s a t ⟨⟩; rfl) hw (.appendEvent subject)
  | markNode node =>
      rw [Effect.attempt, Effect.snd_ofAccess]
      refine healthy_call ?_ (healthy_of_store ?_ hw) (.markChanged node)
      · intro s a t h
        split at h <;> (cases h; rfl)
      · split <;> rfl
  | keepHistory r =>
      rw [Effect.attempt, Effect.snd_ofAccess]
      exact healthy_call (by rintro s a t ⟨⟩; rfl) hw (.appendHistory r.item)
  | handOver x =>
      rw [Effect.snd_attempt_handOver]
      exact healthy_of_store (store_accept x w) hw
  | persist i =>
      rw [Effect.attempt, Effect.snd_ofAccess]
      refine healthy_call ?_ hw (.update i.id)
      intro s a t h
      split at h <;> cases h
      rfl

theorem item?_perform (hw : w.Healthy) (e : Effect) (now : Time) (found : String) (id : Uuid) :
    (e.perform now found w).2.item? id = e.written?.toList.foldl (overwrite id) (w.item? id) := by
  rw [Effect.snd_perform]
  by_cases hpersist : ∃ i, e = .persist i
  · obtain ⟨i, rfl⟩ := hpersist
    show ((Effect.persist i).attempt now found w).2.item? id = overwrite id (w.item? id) i
    rcases persist_cases i now found w with ⟨v, hok, hwrites⟩ | ⟨error, herror⟩
    · rw [hok]
      by_cases hid : i.id = id
      · obtain ⟨old, hold, hnew⟩ := hwrites.item?
        rw [overwrite, if_pos hid, ← hid, hold, hnew, Option.map_some]
      · rw [overwrite, if_neg hid, hwrites.others id (Ne.symm hid)]
    · -- On a store that works only an item that is not there cannot be written.
      have hnone : w.item? i.id = none := by
        cases hitem : w.item? i.id with
        | none => rfl
        | some old =>
            have hok := persist_of_healthy hw hitem now found
            rw [herror] at hok
            cases hok
      rw [herror, overwrite]
      split
      · next hid => rw [← hid, hnone, Option.map_none]
      · rfl
  · have hother : ∀ i, e ≠ .persist i := fun i hi => hpersist ⟨i, hi⟩
    rw [(sameItems_attempt hother now found w).item?, Effect.written?_eq_none hother]
    rfl

theorem healthy_performAll (hw : w.Healthy) (es : List Effect) (now : Time) (found : String) :
    (Effect.performAll now found w es).2.Healthy := by
  induction es generalizing w found with
  | nil => exact hw
  | cons e es ih => exact ih (healthy_perform hw e now found) _

theorem item?_performAll (hw : w.Healthy) (es : List Effect) (now : Time) (found : String)
    (id : Uuid) : (Effect.performAll now found w es).2.item? id =
      (es.filterMap Effect.written?).foldl (overwrite id) (w.item? id) := by
  induction es generalizing w found with
  | nil => rfl
  | cons e es ih =>
      rw [Effect.performAll_cons, ih (healthy_perform hw e now found), item?_perform hw,
        ← List.foldl_append]
      cases h : e.written? <;> simp [h]

end World

/-! ### Dispatches -/

/-- The outcome of a check of an item that starts with some readings, and the readings that it
leaves. There is a probe only if one is known for the tag of the item. -/
def Settings.verdict (s : Settings) (budget : Duration) (probe : Option Program) (m : Readings) :
    Outcome × Readings :=
  match probe with
  | none => (.indeterminate, m.setError ("unknown probe type: " ++ s.probe))
  | some p => (p.course 0).verdict budget m

namespace Task

theorem begin_of_budget {item : Item} {grace budget : Duration}
    (hbudget : item.settings.budget? grace = some budget) (stopping : Bool)
    (program : Unit → Program) (now : Time) :
    (direct item).begin stopping grace (some program) now =
      (direct item).goTo (.checking item.progress.readings (program ()) budget) := by
  simp [begin, claimed, direct, hbudget]

theorem begin_of_no_budget {item : Item} {grace : Duration}
    (hbudget : item.settings.budget? grace = none) (stopping : Bool) (program : Unit → Program)
    (now : Time) :
    (direct item).begin stopping grace (some program) now = (direct item).goTo (.over none) := by
  simp [begin, claimed, direct, hbudget]

variable {σ : Type} [Store σ] [Directory σ] [Exporter σ]

/-- The dispatch of an item from its begin to its end, with nothing in between. What its probe
does, if there is one, is a program that nobody lets through a gate. -/
def dispatch (grace : Duration) (item : Item) (probe : Option Program) (now : Time)
    (s : Shared σ) : Task × Shared σ :=
  let t := (direct item).begin s.stopping grace (probe.map fun p _ => p) now
  match t.phase with
  | .checking m p budget => (t.conclude (p.conclude budget m) now).record now s
  | _ => t.record now s

/-- The dispatch of an item that has a probe and a budget in range. -/
theorem dispatch_some {grace : Duration} {item : Item} {budget : Duration}
    (hbudget : item.settings.budget? grace = some budget) (p : Program) (now : Time)
    (s : Shared σ) :
    dispatch grace item (some p) now s =
      ((direct item).conclude (p.conclude budget item.progress.readings) now).record now s := by
  rw [dispatch, Option.map_some, begin_of_budget hbudget]
  rfl

/-- A dispatch comes to a conclusion that stands for the verdict, and brings about what follows. -/
theorem exists_dispatch_eq {grace : Duration} {item : Item} {budget : Duration}
    (hbudget : item.settings.budget? grace = some budget) (probe : Option Program) (now : Time)
    (s : Shared σ) :
    ∃ c, Dispatch.interpret item c = item.settings.verdict budget probe item.progress.readings ∧
      dispatch grace item probe now s = ((direct item).conclude c now).record now s := by
  cases probe with
  | none => exact ⟨.unknownProbe, rfl, rfl⟩
  | some p =>
      exact ⟨p.conclude budget item.progress.readings,
        p.interpret_conclude item budget item.progress.readings, dispatch_some hbudget p now s⟩

/-- Whatever the store, a dispatch hands it the item as the verdict says, after all else. -/
theorem exists_world_dispatch {grace : Duration} {item : Item} {budget : Duration}
    (hbudget : item.settings.budget? grace = some budget) (probe : Option Program) (now : Time)
    (s : Shared σ) :
    ∃ es, es.filterMap Effect.written? = [] ∧
      (dispatch grace item probe now s).2.world = (Effect.performAll now "" s.world (es ++
        [.persist (item.judged
          (item.settings.verdict budget probe item.progress.readings))])).2 := by
  obtain ⟨c, hverdict, heq⟩ := exists_dispatch_eq hbudget probe now s
  have hworld : (dispatch grace item probe now s).2.world =
      (Effect.performAll now "" s.world (Dispatch.settle item c now).2).2 := by
    rw [heq]
    rfl
  have hwrites := Dispatch.writes_settle item c now
  rw [Dispatch.settle_snd, List.filterMap_append] at hwrites
  refine ⟨_, List.append_left_eq_self.1 hwrites, ?_⟩
  rw [hworld, Dispatch.settle_snd, (Dispatch.conclude_eq item c).1, hverdict]

/-- A dispatch whose budget is out of range is over before its check. -/
theorem dispatch_cases (grace : Duration) (item : Item) (probe : Option Program) (now : Time)
    (s : Shared σ) :
    (dispatch grace item probe now s).2 = s ∨
      ∃ c, (dispatch grace item probe now s).2 =
        { s with world := (Dispatch.finish item c now s.world).2 } := by
  cases hbudget : item.settings.budget? grace with
  | some budget =>
      obtain ⟨c, -, heq⟩ := exists_dispatch_eq hbudget probe now s
      exact .inr ⟨c, by rw [heq]; rfl⟩
  | none =>
      cases probe with
      | none => exact .inr ⟨.unknownProbe, rfl⟩
      | some p =>
          rw [dispatch, Option.map_some, begin_of_no_budget hbudget]
          exact .inl rfl

end Task

/-- What is stored after a check that came to an end. -/
theorem World.item?_finish {w : World MemoryStore} (hw : w.Healthy) (item : Item) (c : Conclusion)
    (now : Time) (id : Uuid) :
    (Dispatch.finish item c now w).2.item? id =
      overwrite id (w.item? id) (Dispatch.conclude item c).1 := by
  have hall := item?_performAll hw (Dispatch.settle item c now).2 now "" id
  rw [Dispatch.writes_settle] at hall
  exact hall

/-- A dispatch that reports a verdict about an item and stores the item as the verdict says. -/
structure Judges (item : Item) (v : Outcome × Readings) (r : Task × Shared (World MemoryStore)) :
    Prop where
  report : ∃ report, r.1.phase = .over (some report) ∧ report.item = item.id ∧ report.outcome = v.1
  stored : r.2.world.item? item.id = some (item.judged v)

theorem judges_dispatch {s : Shared (World MemoryStore)} {item : Item} {grace budget : Duration}
    (hw : s.world.Healthy) (hstored : s.world.item? item.id = some item)
    (hbudget : item.settings.budget? grace = some budget) (probe : Option Program) (now : Time) :
    Judges item (item.settings.verdict budget probe item.progress.readings)
      (Task.dispatch grace item probe now s) := by
  obtain ⟨c, hverdict, heq⟩ := Task.exists_dispatch_eq hbudget probe now s
  obtain ⟨hitem, hid, houtcome⟩ := Dispatch.conclude_eq item c
  rw [heq, ← hverdict]
  refine ⟨⟨(Dispatch.conclude item c).2, rfl, hid, houtcome⟩, ?_⟩
  have hsame : (Dispatch.conclude item c).1.id = item.id := rfl
  have hfinish := World.item?_finish hw item c now item.id
  rw [hstored, World.overwrite, if_pos hsame, hitem] at hfinish
  exact hfinish

/-! ### Dispatches in a row -/

/-- A dispatch to be made of an item. -/
structure Order where
  id : Uuid
  probe : Option Program
  now : Time

namespace Shared

variable {s : Shared (World MemoryStore)} {grace : Duration} {id : Uuid}

/-- Dispatches an item as it is stored. -/
def dispatch (grace : Duration) (s : Shared (World MemoryStore)) (o : Order) :
    Shared (World MemoryStore) :=
  match s.world.item? o.id with
  | some item => (Task.dispatch grace item o.probe o.now s).2
  | none => s

def dispatchAll (grace : Duration) (s : Shared (World MemoryStore)) (os : List Order) :
    Shared (World MemoryStore) :=
  os.foldl (dispatch grace) s

theorem healthy_dispatch (hw : s.world.Healthy) (o : Order) :
    (s.dispatch grace o).world.Healthy := by
  unfold dispatch
  split
  · next item _ =>
    rcases Task.dispatch_cases grace item o.probe o.now s with heq | ⟨c, heq⟩
    · rw [heq]
      exact hw
    · rw [heq]
      exact World.healthy_performAll hw _ _ _
  · exact hw

theorem item?_dispatch_of_ne (hw : s.world.Healthy) {o : Order} (hne : o.id ≠ id) :
    (s.dispatch grace o).world.item? id = s.world.item? id := by
  unfold dispatch
  split
  · next item hitem =>
    have hid : item.id ≠ id := World.id_of_item? hitem ▸ hne
    rcases Task.dispatch_cases grace item o.probe o.now s with heq | ⟨c, heq⟩
    · rw [heq]
    · rw [heq, World.item?_finish hw]
      exact if_neg hid
  · rfl

theorem item?_dispatch {item : Item} {budget : Duration} (hw : s.world.Healthy) {o : Order}
    (hstored : s.world.item? o.id = some item)
    (hbudget : item.settings.budget? grace = some budget) :
    (s.dispatch grace o).world.item? o.id =
      some (item.judged (item.settings.verdict budget o.probe item.progress.readings)) := by
  have hid : item.id = o.id := World.id_of_item? hstored
  have hjudges := judges_dispatch hw (hid.symm ▸ hstored) hbudget o.probe o.now
  rw [dispatch, hstored, ← hid]
  exact hjudges.stored

/-- The readings that dispatches of an item leave, one after another. -/
def readingsAfter (settings : Settings) (budget : Duration) (m : Readings) (os : List Order) :
    Readings :=
  os.foldl (fun m o => (settings.verdict budget o.probe m).2) m

theorem item?_dispatchAll {item : Item} {budget : Duration} (hw : s.world.Healthy)
    (hstored : s.world.item? id = some item)
    (hbudget : item.settings.budget? grace = some budget) (os : List Order) :
    ∃ i, (s.dispatchAll grace os).world.item? id = some i ∧ i.settings = item.settings ∧
      i.progress.readings =
        readingsAfter item.settings budget item.progress.readings (os.filter (·.id = id)) := by
  induction os generalizing s item with
  | nil => exact ⟨item, hstored, rfl, rfl⟩
  | cons o os ih =>
      by_cases hid : o.id = id
      · subst hid
        have hown : (o :: os).filter (·.id = o.id) = o :: os.filter (·.id = o.id) :=
          List.filter_cons_of_pos (decide_eq_true rfl)
        rw [hown]
        exact ih (healthy_dispatch hw o) (item?_dispatch hw hstored hbudget) hbudget
      · rw [List.filter_cons_of_neg (by simpa using hid)]
        exact ih (healthy_dispatch hw o) ((item?_dispatch_of_ne hw hid).trans hstored) hbudget

end Shared

/-- What becomes of the readings of an item that is dispatched. -/
structure KeepsReadings (grace budget : Duration) (item : Item) (s : Shared (World MemoryStore)) :
    Prop where
  /-- However its check ends, a dispatch keeps what the probe did in time. -/
  dispatch : ∀ probe now,
    Judges item (item.settings.verdict budget probe item.progress.readings)
      (Task.dispatch grace item probe now s)
  /-- Whatever is done in the order of time, some probe does it, and what it did in time is kept. -/
  courses : ∀ edits ending now, Course.InOrder 0 edits ending →
    Judges item (Course.verdict budget item.progress.readings ⟨edits, ending⟩)
      (Task.dispatch grace item (some (Program.ofCourse 0 edits ending)) now s)
  /-- Whatever a probe breaks down with, its message is kept. -/
  breakdown : ∀ (p : Program) (payload : Payload) now,
    (p.course 0).endingBy budget.nanos = some (.crash payload.message) →
      Judges item
        (.indeterminate, ((p.course 0).readingsBy budget.nanos item.progress.readings).setError
          ("probe panicked: " ++ payload.message))
        (Task.dispatch grace item (some p) now s)
  /-- Any other store is handed the same item, after all else that follows from the check. -/
  handed : ∀ {τ : Type} [Store τ] [Directory τ] [Exporter τ] (u : Shared τ) probe now,
    ∃ es, es.filterMap Effect.written? = [] ∧
      (Task.dispatch grace item probe now u).2.world = (Effect.performAll now "" u.world (es ++
        [.persist (item.judged
          (item.settings.verdict budget probe item.progress.readings))])).2
  /-- Dispatches of this and of other items leave the readings folded. -/
  dispatchAll : ∀ os, ∃ i, (s.dispatchAll grace os).world.item? item.id = some i ∧
    i.settings = item.settings ∧
      i.progress.readings = Shared.readingsAfter item.settings budget item.progress.readings
        (os.filter (·.id = item.id))

/-- A probe sets readings a second, ten seconds and eleven seconds after its start, but only nine
are in its budget. -/
example :
    let set (key : String) : Edit := .set key (.text "up")
    let p := Program.ofCourse 0
      [(1000000000, set "a"), (10000000000, set "b"), (11000000000, set "c")] none
    ((p.course 0).edits.map (·.1), (p.course 0).endingBy 9000000000 |>.isNone) =
      ([1000000000, 10000000000, 11000000000], true) := by
  decide

end Vigil
