import Mathlib.Data.List.Chain
import Vigil.Proofs.Polling.Projection

/-!
# The dispatches of an item follow one another

The history of an item is read as passages: one dispatch after another, each from its
launch to its end. A passage starts with what the passages before it have left, and
the store holds the outcome of all checks that were written, applied in their order to
the item as it was saved first.
-/

namespace Vigil

/-! ### Checks of copies -/

/-- A check finds the same in copies that agree but for the times. -/
theorem Item.SameFindings.checked {i j : Item} (h : i.SameFindings j) (c : Check) :
    (i.checked c).SameFindings (j.checked c) := by
  constructor
  · exact h.settings
  · simp only [Item.checked, Item.judged, h.readings, h.state, h.settings]
  · simp only [Item.checked, Item.judged, h.readings, h.settings]

/-! ### Passages -/

/-- One dispatch of an item, which starts with a copy. -/
inductive Passage where
  /-- It has not checked the item, or not yet. -/
  | dropped (start : Item)
  /-- It has not written what it found, or not yet. -/
  | unsaved (start : Item) (c : Check)
  | completed (start : Item) (c : Check)

namespace Passage

def start : Passage → Item
  | dropped i => i
  | unsaved i _ => i
  | completed i _ => i

/-- What it has left of an item. -/
def after (i : Item) : Passage → Item
  | completed _ c => i.checked c
  | _ => i

/-- The copy it started with, and its check, if it has written what it found. -/
def completion? : Passage → Option (Item × Check)
  | completed i c => some (i, c)
  | _ => none

/-- What has happened in it so far. -/
def soFar : Passage → List Milestone
  | dropped i => [.launched i]
  | unsaved i c => [.launched i, .checked i.id c]
  | completed i c => [.launched i, .checked i.id c, .persisted (i.checked c)]

/-- All that has happened in it, when it is over. -/
def whole (d : Passage) : List Milestone := d.soFar ++ [.left d.start.id]

/-- Each passage starts with what those before it have left. -/
def Chained (i : Item) : List Passage → Prop
  | [] => True
  | d :: ds => d.start.SameFindings i ∧ Chained (d.after i) ds

theorem chained_append {i : Item} {ds es : List Passage} :
    Chained i (ds ++ es) ↔ Chained i ds ∧ Chained (ds.foldl after i) es := by
  induction ds generalizing i with
  | nil => simp [Chained]
  | cons d ds ih =>
      rw [List.cons_append, Chained, Chained, List.foldl_cons, ih, and_assoc]

/-- What passages leave depends on the completed ones only. -/
theorem foldl_after (i : Item) (ds : List Passage) :
    ds.foldl after i =
      ((ds.filterMap completion?).map Prod.snd).foldl Item.checked i := by
  induction ds generalizing i with
  | nil => rfl
  | cons d ds ih =>
      rw [List.foldl_cons, ih]
      cases d <;> rfl

theorem head_completions {i : Item} {ds : List Passage} (h : Chained i ds) :
    ∀ e ∈ (ds.filterMap completion?).head?, e.1.SameFindings i := by
  induction ds with
  | nil => simp
  | cons d ds ih =>
      obtain ⟨hstart, hrest⟩ := h
      cases d with
      | completed start c =>
          intro e he
          simp only [List.filterMap_cons, completion?, List.head?_cons, Option.mem_some_iff] at he
          rw [← he]
          exact hstart
      | dropped start => exact ih hrest
      | unsaved start c => exact ih hrest

/-- A completed passage starts with what the completed one before it has written. -/
theorem isChain_completions {i : Item} {ds : List Passage} (h : Chained i ds) :
    (ds.filterMap completion?).IsChain fun d e => e.1.SameFindings (d.1.checked d.2) := by
  induction ds generalizing i with
  | nil => exact .nil
  | cons d ds ih =>
      obtain ⟨hstart, hrest⟩ := h
      cases d with
      | completed start c =>
          -- Passages that were dropped or not saved come between without a trace.
          simp only [List.filterMap_cons, completion?]
          refine List.isChain_cons.2 ⟨?_, ih hrest⟩
          intro e he
          exact (head_completions hrest e he).trans (hstart.checked c).symm
      | dropped start => exact ih hrest
      | unsaved start c => exact ih hrest

end Passage

/-! ### Passages in a lane -/

namespace Milestone

/-- A milestone of a dispatch. -/
def isOfDispatch : Milestone → Bool
  | launched _ => true
  | checked _ _ => true
  | persisted _ => true
  | left _ => true
  | _ => false

/-- The milestones of the dispatches of an item. -/
def dispatches (id : Uuid) (ms : List Milestone) : List Milestone :=
  (about id ms).filter isOfDispatch

end Milestone

/-- What a copy of an item has to do with the passage that is under way, if the
passages before it have left `now`. -/
def Copy.Fits (now : Item) (current : Option Passage) : Option Copy → Prop
  | none => current = none
  | some .claimed => current = none
  | some (.loaded i) => current = none ∧ i.SameFindings now
  | some (.armed i _) => current = none ∧ i.SameFindings now
  | some (.flying i .waiting) => current = some (.dropped i)
  | some (.flying i (.checking m _ _)) => current = some (.dropped i) ∧ m = i.progress.readings
  | some (.flying i (.ending [])) =>
    current = some (.dropped i) ∨ ∃ c, current = some (.completed i c)
  | some (.flying i (.ending ws)) => ∃ c, ws = [i.checked c] ∧ current = some (.unsaved i c)

namespace Copy.Fits

variable {now : Item} {current : Option Passage}

theorem eq_none {c : Copy} (h : Copy.Fits now current (some c)) (hc : c.isFlying = false) :
    current = none := by
  cases c with
  | claimed => exact h
  | loaded i => exact h.1
  | armed i inRange => exact h.1
  | flying i flight => simp [isFlying] at hc

theorem exists_passage {i : Item} {flight : Flight}
    (h : Copy.Fits now current (some (.flying i flight))) :
    ∃ d, current = some d ∧ d.start = i := by
  cases flight with
  | waiting => exact ⟨_, h, rfl⟩
  | checking m p budget => exact ⟨_, h.1, rfl⟩
  | ending ws =>
      cases ws with
      | nil =>
          rcases h with h | ⟨c, h⟩
          · exact ⟨_, h, rfl⟩
          · exact ⟨_, h, rfl⟩
      | cons w ws =>
          obtain ⟨c, -, h⟩ := h
          exact ⟨_, h, rfl⟩

end Copy.Fits

namespace Lane

/-- The history of an item is made of passages, and the last one of them may still be
under way. -/
structure Serial (saved : Item) (ds : List Passage) (current : Option Passage)
    (history : List Milestone) (l : Lane) : Prop where
  history_eq : history.filter Milestone.isOfDispatch =
    ds.flatMap Passage.whole ++ (current.map Passage.soFar).getD []
  chained : Passage.Chained saved (ds ++ current.toList)
  stored : ∃ i, l.stored = some i ∧
    i.SameFindings ((ds ++ current.toList).foldl Passage.after saved)
  fits : Copy.Fits (ds.foldl Passage.after saved) current l.copy

namespace Serial

variable {saved : Item} {ds : List Passage} {current : Option Passage}
variable {history ms : List Milestone} {l m : Lane}

/-- A step that is of no passage. -/
theorem idle (h : Serial saved ds current history l)
    (hms : ms.filter Milestone.isOfDispatch = [])
    (hstored : ∀ i, l.stored = some i → ∃ j, m.stored = some j ∧ j.SameFindings i)
    (hfits : Copy.Fits (ds.foldl Passage.after saved) current m.copy) :
    Serial saved ds current (history ++ ms) m := by
  refine ⟨?_, h.chained, ?_, hfits⟩
  · rw [List.filter_append, hms, List.append_nil, h.history_eq]
  · obtain ⟨i, hi, hfindings⟩ := h.stored
    obtain ⟨j, hj, hsame⟩ := hstored i hi
    exact ⟨j, hj, hsame.trans hfindings⟩

/-- A passage begins. -/
theorem begin {i : Item} (h : Serial saved ds none history l)
    (hi : i.SameFindings (ds.foldl Passage.after saved)) (hstored : m.stored = l.stored)
    (hcopy : m.copy = some (.flying i .waiting)) :
    Serial saved ds (some (.dropped i)) (history ++ [.launched i]) m := by
  obtain ⟨hhistory, hchained, hkept, -⟩ := h
  rw [Option.toList_none, List.append_nil] at hchained hkept
  refine ⟨?_, ?_, ?_, ?_⟩
  · rw [List.filter_append, hhistory]
    simp [Milestone.isOfDispatch, Passage.soFar]
  · rw [Option.toList_some, Passage.chained_append]
    exact ⟨hchained, hi, trivial⟩
  · rw [Option.toList_some, List.foldl_append, hstored]
    exact hkept
  · rw [hcopy]
    rfl

/-- The check of the passage under way ends. -/
theorem check {i : Item} {c : Check} (h : Serial saved ds (some (.dropped i)) history l)
    (hstored : m.stored = l.stored) (hcopy : m.copy = some (.flying i (.ending [i.checked c]))) :
    Serial saved ds (some (.unsaved i c)) (history ++ [.checked i.id c]) m := by
  obtain ⟨hhistory, hchained, hkept, -⟩ := h
  rw [Option.toList_some, Passage.chained_append] at hchained
  rw [Option.toList_some, List.foldl_append] at hkept
  refine ⟨?_, ?_, ?_, ?_⟩
  · rw [List.filter_append, hhistory]
    simp [Milestone.isOfDispatch, Passage.soFar]
  · rw [Option.toList_some, Passage.chained_append]
    exact ⟨hchained.1, hchained.2.1, trivial⟩
  · rw [Option.toList_some, List.foldl_append, hstored]
    exact hkept
  · rw [hcopy]
    exact ⟨c, rfl, rfl⟩

/-- What was found in the passage under way is written. -/
theorem persist {i old : Item} {c : Check} (h : Serial saved ds (some (.unsaved i c)) history l)
    (hold : l.stored = some old)
    (hstored : m.stored = some { old with progress := (i.checked c).progress })
    (hcopy : m.copy = some (.flying i (.ending []))) :
    Serial saved ds (some (.completed i c)) (history ++ [.persisted (i.checked c)]) m := by
  obtain ⟨hhistory, hchained, ⟨kept, hkept, hfindings⟩, -⟩ := h
  rw [Option.toList_some, Passage.chained_append] at hchained
  rw [Option.toList_some, List.foldl_append] at hfindings
  rw [hold] at hkept
  cases hkept
  have hchecked := hchained.2.1.checked c
  refine ⟨?_, ?_, ⟨_, hstored, ?_⟩, ?_⟩
  · rw [List.filter_append, hhistory]
    simp [Milestone.isOfDispatch, Passage.soFar]
  · rw [Option.toList_some, Passage.chained_append]
    exact ⟨hchained.1, hchained.2.1, trivial⟩
  · rw [Option.toList_some, List.foldl_append]
    exact ⟨hfindings.settings, hchecked.state, hchecked.readings⟩
  · rw [hcopy]
    exact Or.inr ⟨c, rfl⟩

/-- The passage under way is over. -/
theorem leave {d : Passage} (h : Serial saved ds (some d) history l)
    (hstored : m.stored = l.stored) (hcopy : m.copy = none) :
    Serial saved (ds ++ [d]) none (history ++ [.left d.start.id]) m := by
  obtain ⟨hhistory, hchained, hkept, -⟩ := h
  refine ⟨?_, ?_, ?_, ?_⟩
  · rw [List.filter_append, hhistory]
    simp [Milestone.isOfDispatch, Passage.whole]
  · rw [Option.toList_none, List.append_nil]
    exact hchained
  · rw [Option.toList_none, List.append_nil, hstored]
    exact hkept
  · rw [hcopy]
    rfl

end Serial

theorem serial_step {saved : Item} {ds : List Passage} {current : Option Passage}
    {history ms : List Milestone} {l m : Lane} (h : Serial saved ds current history l)
    (hstep : Step l ms m) (hreset : ∀ asked i, .reset asked i ∉ ms) (hlost : ∀ id, .lost id ∉ ms) :
    ∃ ds current, Serial saved ds current (history ++ ms) m := by
  have hfits := h.fits
  have hkept (i : Item) (hi : l.stored = some i) : ∃ j, l.stored = some j ∧ j.SameFindings i :=
    ⟨i, hi, .refl i⟩
  cases hstep with
  | same => exact ⟨ds, current, h.idle rfl hkept hfits⟩
  | stop j c b => exact ⟨ds, current, h.idle rfl hkept hfits⟩
  | claim j b => exact ⟨ds, current, h.idle rfl hkept hfits⟩
  | @load old item b hload =>
      obtain ⟨i, hi, hstored⟩ := h.stored
      cases hi
      have hnone : current = none := hfits
      subst hnone
      rw [Option.toList_none, List.append_nil] at hstored
      exact ⟨ds, none, h.idle rfl hkept ⟨rfl, hload.trans hstored⟩⟩
  | giveUp j b hc =>
      have hnone : current = none := hfits.eq_none hc
      exact ⟨ds, current, h.idle rfl hkept hnone⟩
  | rearm old item b inRange =>
      refine ⟨ds, current, h.idle rfl ?_ hfits⟩
      rintro i ⟨⟩
      exact ⟨_, rfl, rfl, rfl, rfl⟩
  | pass j item b inRange => exact ⟨ds, current, h.idle rfl hkept hfits⟩
  | launch j item b =>
      obtain ⟨hnone, hitem⟩ := hfits
      subst hnone
      exact ⟨ds, _, h.begin hitem rfl rfl⟩
  | quit j item b => exact ⟨ds, current, h.idle rfl hkept (Or.inl hfits)⟩
  | unknown j item =>
      have hcurrent : current = some (.dropped item) := hfits
      subst hcurrent
      exact ⟨ds, _, h.check rfl rfl⟩
  | probe j item p budget => exact ⟨ds, current, h.idle rfl hkept ⟨hfits, rfl⟩⟩
  | conclude j item readings p budget waits b =>
      obtain ⟨hcurrent, hreadings⟩ := hfits
      subst hcurrent hreadings
      have hchecked := item.conclude_checked (.probed p budget waits)
      exact ⟨ds, _, h.check rfl (by rw [← hchecked]; rfl)⟩
  | persist old item new rest b =>
      obtain ⟨c, hwrites, hcurrent⟩ := hfits
      obtain ⟨rfl, rfl⟩ := List.cons_eq_cons.1 hwrites
      subst hcurrent
      exact ⟨ds, _, h.persist rfl rfl rfl⟩
  | lose j item new rest b => exact absurd (List.mem_singleton_self _) (hlost new.id)
  | leave j item flight b =>
      obtain ⟨d, hcurrent, rfl⟩ := hfits.exists_passage
      subst hcurrent
      exact ⟨_, none, h.leave rfl rfl⟩
  | reset old c b hreset' => exact absurd (List.mem_singleton_self _) (hreset _ _)

theorem serial_run {saved : Item} {ds : List Passage} {current : Option Passage}
    {history ms : List Milestone} {l m : Lane} (h : Serial saved ds current history l)
    (hrun : Run l ms m) (hreset : ∀ asked i, .reset asked i ∉ ms) (hlost : ∀ id, .lost id ∉ ms) :
    ∃ ds current, Serial saved ds current (history ++ ms) m := by
  -- The passages found so far change with every step, so they are general in the induction.
  induction hrun generalizing ds current history with
  | nil l =>
      rw [List.append_nil]
      exact ⟨ds, current, h⟩
  | cons hstep _ ih =>
      simp only [List.mem_append, not_or] at hreset hlost
      obtain ⟨ds, current, hnext⟩ :=
        serial_step h hstep (fun asked i => (hreset asked i).1) fun id => (hlost id).1
      rw [← List.append_assoc]
      exact ih hnext (fun asked i => (hreset asked i).2) fun id => (hlost id).2

/-- Nothing has happened to an item yet. -/
theorem serial_nil (saved : Item) (stopping : Bool) :
    Serial saved [] none [] ⟨some saved, none, stopping⟩ :=
  ⟨rfl, trivial, ⟨saved, rfl, .refl saved⟩, rfl⟩

end Lane

namespace Polling

/-- The dispatches of an item have followed one another from `saved` on. There are
passages, of which the last one may be under way: each starts with what those before it
have left, so a completed one starts with what the completed one before it has written,
and what is stored is what the checks of all completed ones have made of `saved`. -/
def DispatchesSerial (id : Uuid) (saved : Item) (p : Polling (World MemoryStore)) : Prop :=
  ∃ (ds : List Passage) (current : Option Passage),
    let completions := (ds ++ current.toList).filterMap Passage.completion?
    Milestone.dispatches id p.past =
        ds.flatMap Passage.whole ++ (current.map Passage.soFar).getD [] ∧
      Passage.Chained saved (ds ++ current.toList) ∧
      completions.IsChain (fun d e => e.1.SameFindings (d.1.checked d.2)) ∧
      (∃ i, p.shared.world.item? id = some i ∧
        i.SameFindings ((completions.map Prod.snd).foldl Item.checked saved)) ∧
      ((∀ t ∈ p.tasks, t.item.id ≠ id) → current = none)

/-- Whatever happens in whatever order, the dispatches of an item follow one another, if
nobody else writes the item and no dispatch fails to write it. -/
theorem dispatches_serial {timing : Timing} {world : World MemoryStore} {id : Uuid} {saved : Item}
    {as : List (Action (World MemoryStore))} (hsaved : world.item? id = some saved)
    (hhooks : world.store.afterItems = []) (has : ∀ a ∈ as, a.Harmless)
    (hreset : ∀ m ∈ ((start world).run timing as).past, m.subject = id → m.isReset = false)
    (hlost : ∀ m ∈ ((start world).run timing as).past, m.subject = id → m.isLost = false) :
    DispatchesSerial id saved ((start world).run timing as) := by
  have hsound : (start world).Sound := sound_start hhooks
  obtain ⟨ms, hms, hrun⟩ := lane_run timing hsound has id
  have hpast : ((start world).run timing as).past = ms := hms
  rw [lane_start, hsaved] at hrun
  have hnoReset (asked : Time) (i : Item) : .reset asked i ∉ Milestone.about id ms := by
    intro hmem
    obtain ⟨hpresent, hid⟩ := List.mem_filter.1 hmem
    rw [← hpast] at hpresent
    have hnot := hreset _ hpresent (beq_iff_eq.1 hid)
    cases hnot
  have hnoLost (other : Uuid) : .lost other ∉ Milestone.about id ms := by
    intro hmem
    obtain ⟨hpresent, hid⟩ := List.mem_filter.1 hmem
    rw [← hpast] at hpresent
    have hnot := hlost _ hpresent (beq_iff_eq.1 hid)
    cases hnot
  obtain ⟨ds, current, hserial⟩ :=
    Lane.serial_run (Lane.serial_nil saved false) hrun hnoReset hnoLost
  refine ⟨ds, current, ?_, hserial.chained, Passage.isChain_completions hserial.chained, ?_, ?_⟩
  · rw [hpast]
    exact hserial.history_eq
  · obtain ⟨i, hi, hfindings⟩ := hserial.stored
    rw [Passage.foldl_after] at hfindings
    exact ⟨i, hi, hfindings⟩
  · intro hnone
    have hfits := hserial.fits
    cases hcopy : (((start world).run timing as).lane timing id).copy with
    | none =>
        rw [hcopy] at hfits
        exact hfits
    | some c =>
        rw [hcopy] at hfits
        exact hfits.eq_none (isFlying_copy hnone hcopy)

end Polling

namespace Sample

/-- A tick launches the dispatch of the item, whose check runs a program to its end. -/
def checkAt (now : Time) (p : Program) : List (Action (World MemoryStore)) :=
  .startTick now :: List.replicate 6 (.stepTick 0) ++
    [.dropTick 0, .beginCheck 0 (some p) now, .endCheck 0 0 now] ++
    List.replicate 6 (.effect 0 now) ++ [.dropTask 0]

def crash : List (Action (World MemoryStore)) :=
  checkAt .epoch (.edit (.set "size" (.text "12")) (.finish (.crash "out of memory")))

/-- After a check that broke down, a script decides the next one. -/
def crashAndCheck : List (Action (World MemoryStore)) :=
  crash ++ checkAt ((Time.ofParts? 90 0).getD .epoch) (.edit (.set "mode" (.text "slow"))
    (.finish (.judged "mode == \"slow\" && size < 20" .fail)))

/-- The health of the item as it is stored, and its readings that are texts. -/
def found (p : Polling (World MemoryStore)) :
    Option (HealthState × List (String × Option String)) :=
  (p.shared.world.item? item.id).map fun i =>
    (i.progress.state, i.progress.readings.toList.map fun (key, r) => (key, r.text?))

end Sample

namespace Polling

/-- The second dispatch goes on with the readings that the first one has written, and clears the
error that it has left. -/
theorem dispatches_serial_sample :
    Sample.found ((start Sample.world).run .standard Sample.crash) =
        some (.unknown, [("error", some "probe panicked: out of memory"), ("size", some "12")]) ∧
      Sample.found ((start Sample.world).run .standard Sample.crashAndCheck) =
        some (.normal, [("mode", some "slow"), ("size", some "12")]) ∧
      DispatchesSerial Sample.item.id Sample.item
        ((start Sample.world).run .standard Sample.crashAndCheck) := by
  refine ⟨by decide +kernel, by decide +kernel, ?_⟩
  refine dispatches_serial Sample.item?_world rfl ?_ (by decide +kernel) (by decide +kernel)
  simp [Sample.crashAndCheck, Sample.crash, Sample.checkAt, Action.Harmless]

end Polling

end Vigil
