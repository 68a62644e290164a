import Vigil.Proofs.Check.Story
import Vigil.Proofs.Polling.Projection
import Vigil.Proofs.Store.ItemTable

/-!
# Edits beside polling

Items are saved and deleted by others, at any moment between the steps of ticks, dispatches
and retests. All of these hold copies of items that they have loaded, and write them back;
but they write the progress of items that are there, and nothing else. So an item that was
deleted stays away, and the settings of an item are those of its latest save.
-/

namespace Vigil

/-! ### What a call leaves -/

/-- Operations that change neither settings nor records. -/
def StoreOp.isQuiet : StoreOp → Bool
  | save _ => false
  | delete _ => false
  | appendHistory _ => false
  | purgeBefore _ _ => false
  | _ => true

theorem Contents.Becomes.eq_of_isQuiet {c d : Contents} {op : StoreOp}
    {r : Except StoreError StoreAnswer} (h : c.Becomes op r d) (hop : op.isQuiet = true) :
    d = c := by
  cases h <;> first | rfl | cases hop

namespace HoldingStore

variable {σ : Type} [Store σ] [Directory σ] [HoldingStore σ] {s : σ} {c : Contents}

theorem holds_of_isQuiet (h : Holds s c) (op : StoreOp) (hop : op.isQuiet = true) :
    Holds (op.ask s).2 c := by
  obtain ⟨d, hbecomes, hholds⟩ := HoldingStore.ask op h
  rwa [hbecomes.eq_of_isQuiet hop] at hholds

theorem holds_get? (h : Holds s c) (id : Uuid) : Holds ((Store.get? id : Access σ _) s).2 c := by
  have hasked := holds_of_isQuiet h (.get id) rfl
  rwa [StoreOp.ask, Access.map_apply] at hasked

theorem holds_items (h : Holds s c) : Holds ((Store.items : Access σ _) s).2 c := by
  have hasked := holds_of_isQuiet h .list rfl
  rwa [StoreOp.ask, Access.map_apply] at hasked

theorem holds_update (h : Holds s c) (i : Item) : Holds ((Store.update i : Access σ _) s).2 c := by
  have hasked := holds_of_isQuiet h (.update i) rfl
  rwa [StoreOp.ask, Access.map_apply] at hasked

theorem holds_reschedule (h : Holds s c) (id : Uuid) (nextDue : Time) (lastRun : Option Time) :
    Holds ((Store.reschedule id nextDue lastRun : Access σ _) s).2 c := by
  have hasked := holds_of_isQuiet h (.reschedule id nextDue lastRun) rfl
  rwa [StoreOp.ask, Access.map_apply] at hasked

theorem holds_appendEvent (h : Holds s c) (e : Event) :
    Holds ((Store.appendEvent e : Access σ _) s).2 c := by
  have hasked := holds_of_isQuiet h (.appendEvent e) rfl
  rwa [StoreOp.ask, Access.map_apply] at hasked

theorem exists_holds_appendHistory (h : Holds s c) (r : HistoryRecord) :
    ∃ d, Holds ((Store.appendHistory r : Access σ _) s).2 d ∧ d.settings? = c.settings? ∧
      d.records.Sublist (c.records ++ [r]) := by
  obtain ⟨d, hbecomes, hholds⟩ := HoldingStore.ask (.appendHistory r) h
  rw [StoreOp.ask, Access.map_apply] at hbecomes hholds
  refine ⟨d, hholds, ?_⟩
  generalize Except.map _ _ = answer at hbecomes
  cases hbecomes with
  | appended => exact ⟨rfl, .refl _⟩
  | failed => exact ⟨rfl, List.sublist_append_left _ _⟩

/-- An item that is found has its identifier, and the settings that are kept under it. -/
theorem settings_of_get? (h : Holds s c) {id : Uuid} {found : Option Item} {t : σ}
    (hfound : (Store.get? id : Access σ _) s = (.ok found, t)) :
    found.map Item.settings = c.settings? id ∧ ∀ i ∈ found, i.id = id := by
  obtain ⟨d, hbecomes, -⟩ := HoldingStore.ask (.get id) h
  rw [StoreOp.ask, Access.map_apply, hfound] at hbecomes
  generalize hanswer : Except.map StoreAnswer.found _ = answer at hbecomes
  cases hbecomes with
  | found hsettings hid =>
      cases hanswer
      exact ⟨hsettings, hid⟩
  | failed => cases hanswer

theorem settings_of_items (h : Holds s c) {items : List Item} {t : σ}
    (hlisted : (Store.items : Access σ _) s = (.ok items, t)) :
    ∀ i ∈ items, c.settings? i.id = some i.settings := by
  obtain ⟨d, hbecomes, -⟩ := HoldingStore.ask .list h
  rw [StoreOp.ask, Access.map_apply, hlisted] at hbecomes
  generalize hanswer : Except.map StoreAnswer.listed _ = answer at hbecomes
  cases hbecomes with
  | listed hsettings =>
      cases hanswer
      exact hsettings
  | failed => cases hanswer

end HoldingStore

/-! ### What a step leaves -/

section

variable {σ : Type} [Store σ] [Directory σ] {c : Contents}

open HoldingStore

namespace Effect

variable [Exporter σ] [HoldingWorld σ] {s : σ}

/-- An effect leaves all settings, and may append its record. -/
theorem exists_holds_attempt (h : Holds s c) (e : Effect) (now : Time) (found : String) :
    ∃ d, Holds (e.attempt now found s).2 d ∧ d.settings? = c.settings? ∧
      d.records.Sublist (c.records ++ e.record?.toList) := by
  have hsame {t : σ} (ht : Holds t c) (es : List HistoryRecord) :
      ∃ d, Holds t d ∧ d.settings? = c.settings? ∧ d.records.Sublist (c.records ++ es) :=
    ⟨c, ht, rfl, List.sublist_append_left _ _⟩
  cases e with
  | findNode node =>
      rw [snd_attempt_findNode]
      exact hsame (HoldingStore.nodeName? node h) _
  | logEvent category level subject name message =>
      simp only [attempt, snd_ofAccess]
      exact hsame (holds_appendEvent h _) _
  | markNode node =>
      simp only [attempt, snd_ofAccess]
      exact hsame (HoldingStore.markChanged node now h) _
  | keepHistory r =>
      simp only [attempt, snd_ofAccess]
      exact exists_holds_appendHistory h r
  | handOver x =>
      rw [snd_attempt_handOver]
      exact hsame (HoldingWorld.accept x h) _
  | persist i =>
      simp only [attempt, snd_ofAccess]
      exact hsame (holds_update h i) _

end Effect

namespace Task

variable [Exporter σ] [HoldingWorld σ] {s : Shared σ}

/-- The record that the next effect of a dispatch appends. -/
def nextRecord? (t : Task) : Option HistoryRecord :=
  match t.phase with
  | .recording _ (e :: _) _ => e.record?
  | _ => none

theorem exists_holds_recordStep (h : Holds s.world c) (t : Task) (now : Time) :
    ∃ d, Holds (t.recordStep now s).2.world d ∧ d.settings? = c.settings? ∧
      d.records.Sublist (c.records ++ t.nextRecord?.toList) := by
  obtain ⟨item, claim, phase⟩ := t
  cases phase with
  | recording found es report =>
      cases es with
      | nil => exact ⟨c, h, rfl, by simp [nextRecord?]⟩
      | cons e es =>
          obtain ⟨d, hholds, hrest⟩ := e.exists_holds_attempt h now found
          rw [← Effect.snd_perform] at hholds
          exact ⟨d, hholds, hrest⟩
  | _ => exact ⟨c, h, rfl, by simp [nextRecord?]⟩

end Task

namespace Tick

variable [HoldingStore σ] {s : Shared σ}

/-- A tick reads items and writes their times. -/
theorem holds_step (h : Holds s.world c) (t : Tick) (timing : Timing) :
    Holds (t.step timing s).2.1.world c := by
  obtain ⟨now, horizon, stage, report⟩ := t
  cases stage with
  | enumerate =>
      have hlisted := holds_items h
      simp only [step, enumerateStep]
      split <;> simp_all
  | claim rest =>
      cases rest with
      | nil => exact h
      | cons candidate rest =>
          simp only [step, claimStep]
          split <;> exact h
  | reload id rest =>
      have hloaded := holds_get? h id
      simp only [step, reloadStep]
      cases hget : (Store.get? id : Access σ _) s.world with
      | mk r world =>
          rw [hget] at hloaded
          rcases r with e | _ | item
          · exact hloaded
          · exact hloaded
          · dsimp only
            split
            · split <;> exact hloaded
            · exact hloaded
  | reschedule id item rest => exact holds_reschedule h _ _ _
  | launch id item rest =>
      simp only [step, launchStep]
      split <;> exact h
  | done => exact h
  | overflowed => exact h

end Tick

namespace RetestStage

variable [HoldingStore σ] {s : σ}

omit [Directory σ] [HoldingStore σ] in
theorem snd_load (id : Uuid) (s : σ) :
    ((Retest.load id : Access σ _) s).2 = ((Store.get? id : Access σ _) s).2 := by
  cases hget : (Store.get? id : Access σ _) s with
  | mk r t =>
      rcases r with e | _ | item
      · rw [Retest.load, Access.bind_of_error hget]
      · rw [Retest.load, Access.bind_of_ok hget]
        rfl
      · rw [Retest.load, Access.bind_of_ok hget]
        rfl

/-- A retest reads items and writes their progress. -/
theorem holds_step (h : Holds s c) (r : RetestStage) (now : Time) :
    Holds (r.step now s).2.1 c := by
  have hwritten (i : Item) : Holds ((Store.update i : Access σ _) s).2 c := holds_update h i
  cases r with
  | load id =>
      have hloaded : Holds ((Retest.load id : Access σ _) s).2 c := by
        rw [snd_load]
        exact holds_get? h id
      simp only [step]
      split <;> simp_all
  | list =>
      have hlisted := holds_items h
      simp only [step]
      split <;> simp_all
  | writeOne asked item =>
      simp only [step]
      split
      · exact h
      · next reset _ =>
        have hreset := hwritten reset
        split <;> simp_all
  | writeAll asked rest count =>
      cases rest with
      | nil => exact h
      | cons item rest =>
          simp only [step]
          split
          · exact h
          · next reset _ =>
            have hreset := hwritten reset
            split <;> simp_all
  | done result => exact h

end RetestStage

/-- Others change something else than what the store contains. -/
def Action.KeepsContents [HoldingStore σ] : Action σ → Prop
  | .outside change => ∀ s c, Holds s c → Holds (change s) c
  | _ => True

namespace Polling

variable [Exporter σ] [HoldingWorld σ] {timing : Timing} {p : Polling σ}

omit [Store σ] [Directory σ] [Exporter σ] [HoldingWorld σ] in
/-- The record that an action appends if it does not fail. -/
def nextRecord? (p : Polling σ) : Action σ → Option HistoryRecord
  | .effect n _ => p.tasks[n]?.bind Task.nextRecord?
  | _ => none

/-- Polling leaves all settings, and an action may append its record. -/
theorem exists_holds_act (timing : Timing) (h : Holds p.shared.world c) {a : Action σ}
    (ha : a.KeepsContents) :
    ∃ d, Holds (p.act timing a).shared.world d ∧ d.settings? = c.settings? ∧
      d.records.Sublist (c.records ++ (p.nextRecord? a).toList) := by
  have hsame {world : σ} (hworld : Holds world c) :
      ∃ d, Holds world d ∧ d.settings? = c.settings? ∧
        d.records.Sublist (c.records ++ (p.nextRecord? a).toList) :=
    ⟨c, hworld, rfl, List.sublist_append_left _ _⟩
  cases a with
  | effect n now =>
      cases ht : p.tasks[n]? with
      | none =>
          simp only [act, ht]
          exact hsame h
      | some t =>
          obtain ⟨d, hholds, hsettings, hrecords⟩ := t.exists_holds_recordStep h now
          rw [act_effect ht]
          refine ⟨d, hholds, hsettings, ?_⟩
          simpa only [nextRecord?, ht, Option.bind_some] using hrecords
  | stepTick n =>
      simp only [act]
      split
      · exact hsame h
      · next t _ => exact hsame (t.holds_step h timing)
  | dropTick n =>
      simp only [act]
      split
      · exact hsame h
      · next t _ => exact hsame ((t.world_release p.shared).symm ▸ h)
  | dropTask n =>
      simp only [act]
      split
      · exact hsame h
      · next t _ => exact hsame ((t.world_release p.shared).symm ▸ h)
  | stepRetest n now =>
      simp only [act]
      split
      · exact hsame h
      · next r _ => exact hsame (r.holds_step h now)
  | outside change => exact hsame (ha _ _ h)
  | beginCheck n program now =>
      simp only [act]
      split <;> exact hsame h
  | endCheck n waits now =>
      simp only [act]
      split <;> exact hsame h
  | _ => exact hsame h

end Polling

/-! ### Edits -/

/-- A step of what is under way, or an operation that others ask the store for. -/
inductive Move (σ : Type) where
  | own (a : Action σ)
  | edit (op : StoreOp)

namespace Move

def action : Move σ → Action σ
  | own a => a
  | edit op => .outside fun s => (op.ask s).2

def Fair [HoldingStore σ] : Move σ → Prop
  | own a => a.KeepsContents
  | edit _ => True

/-- What a move settles about an item. -/
def ruling? (id : Uuid) (s : σ) : Move σ → Option (Option Settings)
  | own _ => none
  | edit op => op.ruling? id (op.ask s).1

end Move

namespace Polling

variable [Exporter σ]

/-- The polling after moves, one after another. -/
def moved (timing : Timing) (p : Polling σ) : List (Move σ) → Polling σ
  | [] => p
  | m :: ms => moved timing (p.act timing m.action) ms

/-- The settings of the latest save of an item, unless it was deleted later; `known` is what
was settled before. -/
def latest (timing : Timing) (id : Uuid) (known : Option Settings) (p : Polling σ) :
    List (Move σ) → Option Settings
  | [] => known
  | m :: ms =>
    latest timing id ((m.ruling? id p.shared.world).getD known) (p.act timing m.action) ms

variable [HoldingWorld σ] {p : Polling σ}

theorem exists_holds_move (timing : Timing) (h : Holds p.shared.world c) {m : Move σ}
    (hm : m.Fair) :
    ∃ d, Holds (p.act timing m.action).shared.world d ∧
      ∀ id, d.settings? id = (m.ruling? id p.shared.world).getD (c.settings? id) := by
  cases m with
  | own a =>
      obtain ⟨d, hholds, hsettings, -⟩ := exists_holds_act timing h hm
      exact ⟨d, hholds, fun id => congrFun hsettings id⟩
  | edit op =>
      obtain ⟨d, hbecomes, hholds⟩ := HoldingStore.ask op h
      exact ⟨d, hholds, hbecomes.settings?_eq⟩

theorem exists_holds_moved (timing : Timing) (h : Holds p.shared.world c) {ms : List (Move σ)}
    (hms : ∀ m ∈ ms, m.Fair) :
    ∃ d, Holds (p.moved timing ms).shared.world d ∧
      ∀ id, d.settings? id = latest timing id (c.settings? id) p ms := by
  induction ms generalizing p c with
  | nil => exact ⟨c, h, fun _ => rfl⟩
  | cons m ms ih =>
      obtain ⟨d, hholds, hruled⟩ := exists_holds_move timing h (hms m List.mem_cons_self)
      obtain ⟨e, hfinal, hlatest⟩ := ih hholds fun n hn => hms n (List.mem_cons_of_mem m hn)
      refine ⟨e, hfinal, fun id => ?_⟩
      rw [hlatest, hruled]
      rfl

/-- Whatever copies are written back, the settings in the store are at every moment those of
the latest saves, and a look-up and a listing show no others. -/
theorem settings_of_latest_save (timing : Timing) {world : σ} (hworld : Holds world .empty)
    {ms : List (Move σ)} (hms : ∀ m ∈ ms, m.Fair) :
    let s := ((start world).moved timing ms).shared.world
    let latest id := latest timing id none (start world) ms
    (∃ c, Holds s c ∧ ∀ id, c.settings? id = latest id) ∧
      (∀ id found t, (Store.get? id : Access σ _) s = (.ok found, t) →
        found.map Item.settings = latest id) ∧
      ∀ items t, (Store.items : Access σ _) s = (.ok items, t) →
        ∀ i ∈ items, latest i.id = some i.settings := by
  intro s latest
  obtain ⟨c, hholds, hlatest⟩ := exists_holds_moved (p := start world) timing hworld hms
  refine ⟨⟨c, hholds, hlatest⟩, ?_, ?_⟩
  · intro id found t hfound
    exact (settings_of_get? hholds hfound).1.trans (hlatest id)
  · intro items t hlisted i hi
    exact (hlatest i.id).symm.trans (settings_of_items hholds hlisted i hi)

end Polling

end

/-! ### A small world -/

/-- An item is saved, and deleted while a dispatch of it is at its check. -/
def Sample.deletedInFlight {σ : Type} (item : Item) : List (Move σ) :=
  .edit (.save item) :: .own (.startTick .epoch) :: List.replicate 6 (.own (.stepTick 0)) ++
    [.own (.beginCheck 0 (some (.finish (.outcome .pass))) .epoch), .edit (.delete item.id),
      .own (.endCheck 0 0 .epoch), .own (.effect 0 .epoch)]

theorem Sample.fair_deletedInFlight {σ : Type} [Store σ] [Directory σ] [HoldingStore σ]
    (item : Item) : ∀ m ∈ deletedInFlight (σ := σ) item, m.Fair := by
  simp [deletedInFlight, Move.Fair, Action.KeepsContents]

/-- The dispatch goes on, but the item is not there any more, in memory and in a database. -/
theorem Polling.settings_of_latest_save_sample :
    (∃ c, HoldingStore.Holds ((start (World.start MemoryStore.empty .empty .absent)).moved .standard
        (Sample.deletedInFlight Sample.item)).shared.world c ∧
      c.settings? Sample.item.id = none) ∧
    ∃ c, HoldingStore.Holds ((start (World.start Database.fresh .empty .absent)).moved .standard
        (Sample.deletedInFlight Sample.item)).shared.world c ∧
      c.settings? Sample.item.id = none := by
  constructor
  · obtain ⟨⟨c, hholds, hlatest⟩, -⟩ := settings_of_latest_save .standard
      (World.holds_start MemoryStore.holds_empty .empty .absent)
      (Sample.fair_deletedInFlight Sample.item)
    exact ⟨c, hholds, (hlatest _).trans (by decide +kernel)⟩
  · obtain ⟨⟨c, hholds, hlatest⟩, -⟩ := settings_of_latest_save .standard
      (World.holds_start Database.fresh_holds .empty .absent)
      (Sample.fair_deletedInFlight Sample.item)
    exact ⟨c, hholds, (hlatest _).trans (by decide +kernel)⟩

end Vigil
