import Mathlib.Data.List.Chain
import Vigil.Proofs.Polling.Clock
import Vigil.Proofs.Polling.Projection
import Vigil.Proofs.Scheduler.Pace

/-!
# The cadence of an item

Only ticks move the due time of an item on, and the dispatches that they launch write it back
as it was launched. So the due times that were written form a chain (`Item.Paced`), whatever
else goes on: the stored item is due as the last of them says, and every launch belongs to one
of them. Both bounds on the cadence of the item are read off this chain.
-/

namespace Vigil

/-! ### The due times that were written -/

namespace Milestone

/-- Whether an item is launched right after it was loaded, as its times could not be written. -/
def skipsWrite (m n : Milestone) : Bool := m.isLoaded && n.launched?.isSome

/-- A history of an item that nobody but ticks and dispatches writes, and whose times were
written before each launch. -/
structure Regular (history : List Milestone) : Prop where
  isReset_eq_false : ∀ m ∈ history, m.isReset = false
  isChain : history.IsChain fun m n => m.skipsWrite n = false

instance (history : List Milestone) : Decidable (Regular history) :=
  decidable_of_iff ((∀ m ∈ history, m.isReset = false) ∧
    history.IsChain fun m n => m.skipsWrite n = false) ⟨fun h => ⟨h.1, h.2⟩, fun h => ⟨h.1, h.2⟩⟩

theorem Regular.of_append {ms ns : List Milestone} (h : Regular (ms ++ ns)) : Regular ms :=
  ⟨fun m hm => h.isReset_eq_false m (List.mem_append_left _ hm), h.isChain.left_of_append⟩

end Milestone

/-- A check leaves the due time as it is. -/
theorem Dispatch.nextDue_conclude (item : Item) (c : Conclusion) :
    (conclude item c).1.progress.nextDue = item.progress.nextDue := rfl

/-- What a dispatch has still to write. -/
def Flight.writes : Flight → List Item
  | ending ws => ws
  | _ => []

section

open Milestone

variable (timing : Timing) (interval : Span) (ticked : Time → Prop) (saved : Item)

/-- What a copy of an item has to do with the due times that were written. -/
def Copy.Paced (history : List Milestone) : Copy → Prop
  | claimed => True
  | loaded i => history.getLast? = some (.loaded i) ∧ ∃ now, ticked now ∧
      i.MovedOn timing interval (Item.dueAfter saved.progress.nextDue (rearms history)) now
  | armed i _ => history.getLast? = some (.loaded i) ∨
      ∃ before, rearms history = before ++ [i] ∧ (launches history).Sublist before
  | flying i flight => (∃ before, rearms history = before ++ [i]) ∧
      ∀ w ∈ flight.writes, w.progress.nextDue = i.progress.nextDue

namespace Lane

/-- The due times of an item that were written follow one another from `saved` on, and the item
is due when the last of them says. -/
structure Paced (history : List Milestone) (l : Lane) : Prop where
  chain : Item.Paced timing interval ticked saved.progress.nextDue (rearms history)
  launches_sublist : (launches history).Sublist (rearms history)
  stored : ∃ i, l.stored = some i ∧ i.settings = saved.settings ∧
    i.progress.nextDue = Item.dueAfter saved.progress.nextDue (rearms history)
  copy : ∀ c, l.copy = some c → c.Paced timing interval ticked saved history

theorem paced_nil (stopping : Bool) :
    Paced timing interval ticked saved [] ⟨some saved, none, stopping⟩ :=
  ⟨trivial, .slnil, ⟨saved, rfl, rfl, rfl⟩, fun c hc => by cases hc⟩

end Lane

end

namespace Lane

open Milestone

variable {timing : Timing} {interval : Span} {ticked : Time → Prop} {saved : Item}
variable {history ms : List Milestone} {l m : Lane}

/-- A copy that is launched has its check ahead. -/
theorem Step.copy_of_launched {i : Item} (h : Step l ms m) (hi : .launched i ∈ ms) :
    m.copy = some (.flying i .waiting) := by
  cases h with
  | launch j item b =>
      cases List.mem_singleton.1 hi
      rfl
  | _ => simp at hi

/-- A step that leaves the item and writes no times. -/
theorem Paced.keep (h : Paced timing interval ticked saved history l) (hrearms : rearms ms = [])
    (hlaunches : launches ms = []) (hstored : m.stored = l.stored)
    (hcopy : ∀ c, m.copy = some c → c.Paced timing interval ticked saved (history ++ ms)) :
    Paced timing interval ticked saved (history ++ ms) m := by
  have hsame := rearms_append_of_nil history hrearms
  refine ⟨?_, ?_, ?_, hcopy⟩
  · rw [hsame]
    exact h.chain
  · rw [hsame, launches_append_of_nil history hlaunches]
    exact h.launches_sublist
  · rw [hsame, hstored]
    exact h.stored

/-- The new times of the item are written. -/
theorem Paced.rearm {old item : Item} {b inRange : Bool}
    (h : Paced timing interval ticked saved history ⟨some old, some (.loaded item), b⟩) :
    Paced timing interval ticked saved (history ++ [.rearmed item])
      ⟨some { old with
          progress := { old.progress with
            nextDue := item.progress.nextDue
            lastRun := item.progress.lastRun } },
        some (.armed item inRange), b⟩ := by
  have hrearms : rearms (history ++ [.rearmed item]) = rearms history ++ [item] :=
    rearms_append history [.rearmed item]
  have hlaunches : launches (history ++ [.rearmed item]) = launches history :=
    launches_append_of_nil history rfl
  obtain ⟨-, hmoved⟩ := h.copy _ rfl
  obtain ⟨i, hi, hsettings, -⟩ := h.stored
  cases hi
  refine ⟨?_, ?_, ⟨_, rfl, hsettings, ?_⟩, ?_⟩
  · rw [hrearms]
    exact Item.paced_concat.2 ⟨h.chain, hmoved⟩
  · rw [hrearms, hlaunches]
    exact h.launches_sublist.trans (List.sublist_append_left _ _)
  · rw [hrearms, Item.dueAfter_concat]
  · rintro c ⟨⟩
    exact .inr ⟨_, hrearms, hlaunches ▸ h.launches_sublist⟩

/-- An item is launched whose times were written. -/
theorem Paced.launch {i : Option Item} {item : Item} {b : Bool}
    (h : Paced timing interval ticked saved history ⟨i, some (.armed item true), b⟩)
    (hregular : Regular (history ++ [.launched item])) :
    Paced timing interval ticked saved (history ++ [.launched item])
      ⟨i, some (.flying item .waiting), b⟩ := by
  have hrearms : rearms (history ++ [.launched item]) = rearms history :=
    rearms_append_of_nil history rfl
  obtain ⟨before, hbefore, hsub⟩ := (h.copy _ rfl).resolve_left fun hlast => by
    have hskip := (List.isChain_append.1 hregular.isChain).2.2 _ hlast _ rfl
    cases hskip
  refine ⟨?_, ?_, ?_, ?_⟩
  · rw [hrearms]
    exact h.chain
  · rw [hrearms, hbefore, launches_append]
    exact hsub.append (.refl _)
  · rw [hrearms]
    exact h.stored
  · rintro c ⟨⟩
    exact ⟨⟨before, hrearms.trans hbefore⟩, fun w hw => by cases hw⟩

/-- A dispatch goes on, and what it has to write is due as its item is. -/
theorem Paced.fly {i : Option Item} {item : Item} {flight next : Flight} {b : Bool}
    (h : Paced timing interval ticked saved history ⟨i, some (.flying item flight), b⟩)
    (hrearms : rearms ms = []) (hlaunches : launches ms = [])
    (hnext : ∀ w ∈ next.writes, w ∈ flight.writes ∨ w.progress.nextDue = item.progress.nextDue) :
    Paced timing interval ticked saved (history ++ ms) ⟨i, some (.flying item next), b⟩ := by
  obtain ⟨⟨before, hbefore⟩, hwrites⟩ := h.copy _ rfl
  refine h.keep hrearms hlaunches rfl ?_
  rintro c ⟨⟩
  exact ⟨⟨before, (rearms_append_of_nil history hrearms).trans hbefore⟩,
    fun w hw => (hnext w hw).elim (hwrites w) id⟩

/-- A dispatch writes its item as it was launched, but for what it has found. -/
theorem Paced.persist {old item new : Item} {rest : List Item} {b : Bool}
    (h : Paced timing interval ticked saved history
      ⟨some old, some (.flying item (.ending (new :: rest))), b⟩) :
    Paced timing interval ticked saved (history ++ [.persisted new])
      ⟨some { old with progress := new.progress }, some (.flying item (.ending rest)), b⟩ := by
  have hrearms : rearms (history ++ [.persisted new]) = rearms history :=
    rearms_append_of_nil history rfl
  obtain ⟨⟨before, hbefore⟩, hwrites⟩ := h.copy _ rfl
  obtain ⟨i, hi, hsettings, -⟩ := h.stored
  cases hi
  refine ⟨?_, ?_, ⟨_, rfl, hsettings, ?_⟩, ?_⟩
  · rw [hrearms]
    exact h.chain
  · rw [hrearms, launches_append_of_nil history rfl]
    exact h.launches_sublist
  · rw [hrearms, hbefore, Item.dueAfter_concat]
    exact hwrites new List.mem_cons_self
  · rintro c ⟨⟩
    exact ⟨⟨before, hrearms.trans hbefore⟩, fun w hw => hwrites w (List.mem_cons_of_mem _ hw)⟩

/-- What can happen to an item keeps its due times in a chain, if whatever is loaded is moved on
from the time that is stored, and launched only after it was written. -/
theorem Paced.step (h : Paced timing interval ticked saved history l) (hstep : Step l ms m)
    (hregular : Regular (history ++ ms))
    (hload : ∀ old new, l.stored = some old → .loaded new ∈ ms → old.settings = saved.settings →
      ∃ now, ticked now ∧ new.MovedOn timing interval old.progress.nextDue now) :
    Paced timing interval ticked saved (history ++ ms) m := by
  cases hstep with
  | same => exact h.keep rfl rfl rfl ((List.append_nil history).symm ▸ h.copy)
  | stop i c b => exact h.keep rfl rfl rfl ((List.append_nil history).symm ▸ h.copy)
  | claim i b => exact h.keep rfl rfl rfl (by rintro c ⟨⟩; trivial)
  | @load old item b hload' =>
      obtain ⟨i, hi, hsettings, hdue⟩ := h.stored
      cases hi
      refine h.keep rfl rfl rfl ?_
      rintro c ⟨⟩
      refine ⟨List.getLast?_concat, ?_⟩
      rw [rearms_append_of_nil history rfl, ← hdue]
      exact hload old item rfl (List.mem_singleton_self _) hsettings
  | giveUp i b hc => exact h.keep rfl rfl rfl (by rintro c ⟨⟩)
  | rearm old item b inRange => exact h.rearm
  | pass i item b inRange =>
      refine h.keep rfl rfl rfl ?_
      rintro c ⟨⟩
      rw [List.append_nil]
      exact .inl (h.copy _ rfl).1
  | launch i item b => exact h.launch hregular
  | quit i item b => exact h.fly rfl rfl (by simp [Flight.writes])
  | unknown i item =>
      exact h.fly rfl rfl (by simp [Flight.writes, Item.checked, Item.judged])
  | probe i item p budget => exact h.fly rfl rfl (by simp [Flight.writes])
  | conclude i item readings p budget waits b =>
      exact h.fly rfl rfl (by simp [Flight.writes, Dispatch.nextDue_conclude])
  | persist old item new rest b => exact h.persist
  | lose i item new rest b => exact h.fly rfl rfl fun w hw => .inl (List.mem_cons_of_mem _ hw)
  | leave i item flight b => exact h.keep rfl rfl rfl (by rintro c ⟨⟩)
  | reset old c b hnew =>
      cases hregular.isReset_eq_false _ (List.mem_append_right _ (List.mem_singleton_self _))

end Lane

/-! ### Runs -/

/-- An action that does not change one item from outside. -/
def Action.Spares (id : Uuid) : Action (World MemoryStore) → Prop
  | .outside change => ∀ w, (change w).item? id = w.item? id ∧
      (change w).store.afterItems = w.store.afterItems
  | _ => True

namespace Polling

variable {timing : Timing} {interval : Span} {ticked : Time → Prop} {saved : Item} {id : Uuid}
variable {p : Polling (World MemoryStore)}

theorem sound_act_of_spares (timing : Timing) (h : p.Sound) {a : Action (World MemoryStore)}
    (ha : a.Spares id) : (p.act timing a).Sound := by
  cases a with
  | outside change =>
      exact ⟨accounted_act timing h.accounted _, keyed_act timing h.keyed _,
        own_act timing h.own _, (ha _).2.trans h.afterItems⟩
  | _ => exact sound_act timing h trivial

theorem lane_act_of_spares (timing : Timing) (h : p.Sound) {a : Action (World MemoryStore)}
    (ha : a.Spares id) :
    ∃ ms, (p.act timing a).past = p.past ++ ms ∧
      Lane.Step (p.lane timing id) (Milestone.about id ms) ((p.act timing a).lane timing id) := by
  cases a with
  | outside change =>
      refine ⟨[], (List.append_nil _).symm, ?_⟩
      simp only [act, lane, (ha _).1]
      exact .same _
  | _ => exact lane_act timing h (by trivial) id

/-- A polling that keeps the due times of an item in a chain from `saved` on. -/
structure Paced (timing : Timing) (interval : Span) (ticked : Time → Prop) (saved : Item)
    (id : Uuid) (p : Polling (World MemoryStore)) : Prop where
  sound : p.Sound
  clocked : ∀ t ∈ p.ticks, t.Clocked timing ticked
  lane : Lane.Paced timing interval ticked saved (Milestone.about id p.past) (p.lane timing id)

theorem paced_start {world : World MemoryStore} (hhooks : world.store.afterItems = [])
    (hsaved : world.item? id = some saved) :
    (start world).Paced timing interval ticked saved id := by
  refine ⟨sound_start hhooks, by simp [start], ?_⟩
  rw [lane_start, hsaved]
  exact Lane.paced_nil timing interval ticked saved false

/-- What is loaded is due by the horizon of the tick that loads it, and moved on by it. -/
theorem exists_movedOn_of_loaded (h : p.Paced timing interval ticked saved id)
    (hinterval : saved.settings.interval? = some interval) {a : Action (World MemoryStore)}
    {ms : List Milestone} (hms : (p.act timing a).past = p.past ++ ms) {old new : Item}
    (hold : (p.lane timing id).stored = some old) (hnew : .loaded new ∈ Milestone.about id ms)
    (hsettings : old.settings = saved.settings) :
    ∃ now, ticked now ∧ new.MovedOn timing interval old.progress.nextDue now := by
  obtain ⟨hmem, hid⟩ := List.mem_filter.1 hnew
  have hid : new.id = id := beq_iff_eq.1 hid
  cases ht : p.stepped? a with
  | none =>
      obtain ⟨others, hothers, hnone⟩ := exists_past_act timing ht
      rw [List.append_cancel_left (hms.symm.trans hothers)] at hmem
      cases hnone _ hmem
  | some t =>
      have hstep := past_act_of_stepped timing ht
      rw [List.append_cancel_left (hms.symm.trans hstep)] at hmem
      have hclocked := h.clocked t (mem_ticks_of_stepped ht)
      rcases Tick.mem_milestones hmem with ⟨found, _, heq, hfound, hgo, hdue, hlaunched⟩ |
        ⟨i, -, heq | heq⟩
      · cases heq
        rw [hid] at hfound
        obtain rfl : found = old := Option.some.inj (hfound.symm.trans hold)
        exact ⟨t.now, hclocked.ticked, .of_launchedAt? (hsettings ▸ hinterval)
          (hclocked.timed.horizon hgo) hdue hlaunched⟩
      · cases heq
      · cases heq

theorem Paced.act (h : p.Paced timing interval ticked saved id)
    (hinterval : saved.settings.interval? = some interval) {a : Action (World MemoryStore)}
    (ha : a.Spares id) (hticked : ∀ now, a = .startTick now → ticked now)
    (hregular : Milestone.Regular (Milestone.about id (p.act timing a).past)) :
    (p.act timing a).Paced timing interval ticked saved id := by
  obtain ⟨ms, hms, hstep⟩ := lane_act_of_spares timing h.sound ha
  have habout : Milestone.about id (p.act timing a).past =
      Milestone.about id p.past ++ Milestone.about id ms := by
    rw [hms, Milestone.about_append]
  rw [habout] at hregular
  refine ⟨sound_act_of_spares timing h.sound ha, clocked_act h.clocked hticked, ?_⟩
  rw [habout]
  refine h.lane.step hstep hregular ?_
  intro old new hold hnew hsettings
  exact exists_movedOn_of_loaded h hinterval hms hold hnew hsettings

theorem Paced.run (h : p.Paced timing interval ticked saved id)
    (hinterval : saved.settings.interval? = some interval)
    {as : List (Action (World MemoryStore))} (has : ∀ a ∈ as, a.Spares id)
    (hticked : ∀ now, .startTick now ∈ as → ticked now)
    (hregular : Milestone.Regular (Milestone.about id (p.run timing as).past)) :
    (p.run timing as).Paced timing interval ticked saved id := by
  induction as generalizing p with
  | nil => exact h
  | cons a as ih =>
      have ha := has a List.mem_cons_self
      have hrest := fun b hb => has b (List.mem_cons_of_mem a hb)
      -- What the whole run leaves begins with what the first action leaves.
      obtain ⟨ms, hms⟩ := exists_past_run timing (p.act timing a) as
      rw [run_cons] at hregular ⊢
      refine ih (h.act hinterval ha ?_ ?_) hrest ?_ hregular
      · rintro now rfl
        exact hticked now List.mem_cons_self
      · rw [hms, Milestone.about_append] at hregular
        exact hregular.of_append
      · exact fun now hnow => hticked now (List.mem_cons_of_mem a hnow)

/-! ### Cadence -/

/-- In a run the cadence of an item is bounded on both sides. Once a tick has launched a dispatch
of the item, its due time lies one interval after the tick, or beyond by the lookahead at most,
until a tick moves it on again. If no tick starts inside a leap second, there are as many
intervals between two launches as there are dispatches from one to the other, or less by the
lookahead at most. -/
structure KeepsCadence (timing : Timing) (id : Uuid) (interval : Int)
    (p : Polling (World MemoryStore)) (as : List (Action (World MemoryStore))) : Prop where
  stored : ∀ before a after t, as = before ++ a :: after →
    (p.run timing before).launchTimes timing id [a] = [t] →
    ((p.run timing before).act timing a).rearmTimes timing id after = [] →
    ∃ i, (p.run timing as).shared.world.item? id = some i ∧
      t.instant + interval ≤ i.progress.nextDue.instant ∧
      i.progress.nextDue.instant ≤ t.instant + timing.lookahead.nanos + interval
  spaced : (∀ now, .startTick now ∈ as → now.IsPlain) → ∀ j k t u,
    (p.launchTimes timing id as)[j]? = some t → (p.launchTimes timing id as)[k]? = some u →
    j ≤ k → (k - j : Nat) * interval ≤ u.instant - t.instant + timing.lookahead.nanos

/-- The due time of an item that was launched is that of its launch until it is written again. -/
theorem stored_of_launch (h : p.Paced timing interval ticked saved id)
    (hinterval : saved.settings.interval? = some interval) {a : Action (World MemoryStore)}
    {as : List (Action (World MemoryStore))} (has : ∀ b ∈ a :: as, b.Spares id)
    (hticked : ∀ now, .startTick now ∈ a :: as → ticked now)
    (hregular : Milestone.Regular (Milestone.about id (p.run timing (a :: as)).past)) {t : Time}
    (hlaunch : p.launchTimes timing id [a] = [t])
    (hafter : (p.act timing a).rearmTimes timing id as = []) :
    ∃ before i stored, Item.Paced timing interval ticked saved.progress.nextDue (before ++ [i]) ∧
      i.progress.lastRun = some t ∧
      (p.run timing (a :: as)).shared.world.item? id = some stored ∧
      stored.progress.nextDue = i.progress.nextDue := by
  have ha := has a List.mem_cons_self
  have hnow : ∀ now, a = .startTick now → ticked now := by
    rintro now rfl
    exact hticked now List.mem_cons_self
  obtain ⟨ms, i, hms, hi, hlast⟩ := exists_launched_of_launchTimes h.clocked hlaunch
  -- The copy that was launched is the one that was written last.
  have hsoFar := hregular
  obtain ⟨ns, hns⟩ := exists_past_run timing (p.act timing a) as
  rw [run_cons, hns, Milestone.about_append] at hsoFar
  have hmid := h.act hinterval ha hnow hsoFar.of_append
  obtain ⟨others, hothers, hstep⟩ := lane_act_of_spares timing h.sound ha
  rw [List.append_cancel_left (hothers.symm.trans hms)] at hstep
  obtain ⟨⟨before, hbefore⟩, -⟩ := hmid.lane.copy _ (hstep.copy_of_launched hi)
  -- No other copy was written since.
  have hrearms := rearms_of_rearmTimes hmid.clocked
    (fun now hnow => hticked now (List.mem_cons_of_mem a hnow)) hafter
  have hend := (h.run hinterval has hticked hregular).lane
  obtain ⟨stored, hstored, -, hdue⟩ := hend.stored
  have hchain := hend.chain
  rw [run_cons, hrearms, hbefore] at hdue hchain
  exact ⟨before, i, stored, hchain, hlast, hstored, hdue.trans (Item.dueAfter_concat _ _ _)⟩

/-- Whatever happens in whatever order, the cadence of an item with a valid interval is bounded on
both sides, if nobody but ticks and their dispatches writes the item and it was not saved to be due
inside a leap second. -/
theorem keeps_cadence {timing : Timing} {world : World MemoryStore} {id : Uuid} {saved : Item}
    {as : List (Action (World MemoryStore))} (hsaved : world.item? id = some saved)
    (hvalid : Validation.checkInterval saved.settings.intervalSeconds = .ok ())
    (hdue : saved.progress.nextDue.IsPlain) (hhooks : world.store.afterItems = [])
    (has : ∀ a ∈ as, a.Spares id)
    (hregular : Milestone.Regular (Milestone.about id ((start world).run timing as).past)) :
    KeepsCadence timing id saved.settings.intervalNanos (start world) as := by
  obtain ⟨hinterval, hsecond⟩ := Settings.interval?_of_valid hvalid
  have hstart : (start world).Paced timing ⟨saved.settings.intervalNanos⟩
      (fun now => .startTick now ∈ as) saved id := paced_start hhooks hsaved
  constructor
  · rintro before a after t rfl hlaunch hafter
    have hbefore := (List.forall_mem_append.1 has).1
    obtain ⟨ms, hms⟩ := exists_past_run timing ((start world).run timing before) (a :: after)
    rw [run_append] at hregular ⊢
    have hsoFar := hregular
    rw [hms, Milestone.about_append] at hsoFar
    have hpaced := hstart.run hinterval hbefore (fun now hnow => List.mem_append_left _ hnow)
      hsoFar.of_append
    obtain ⟨launches, i, stored, hchain, hlast, hstored, hsame⟩ :=
      stored_of_launch hpaced hinterval (List.forall_mem_append.1 has).2
        (fun now hnow => List.mem_append_right _ hnow) hregular hlaunch hafter
    refine ⟨stored, hstored, ?_⟩
    rw [hsame]
    exact hchain.bounds_last hsecond hdue hlast
  · intro hplain j k t u ht hu hjk
    have hpaced := hstart.run hinterval has (fun now hnow => hnow) hregular
    obtain ⟨ms, hms, htimes⟩ := map_lastRun_run Milestone.eq_of_launched?
      hstart.clocked id fun now hnow => hnow
    have hpast : ((start world).run timing as).past = ms := hms
    have hitem {n : Nat} {v : Time} (hv : ((start world).launchTimes timing id as)[n]? = some v) :
        ∃ i, (Milestone.launches (Milestone.about id ms))[n]? = some i ∧
          i.progress.lastRun = some v := by
      have hget : ((start world).launchTimes timing id as |>.map some)[n]? = some (some v) := by
        rw [List.getElem?_map, hv]
        rfl
      rw [launchTimes, ← htimes, List.getElem?_map] at hget
      exact Option.map_eq_some_iff.1 hget
    obtain ⟨a, ha, hlast⟩ := hitem ht
    obtain ⟨b, hb, hlater⟩ := hitem hu
    rw [← hpast] at ha hb
    exact hpaced.lane.chain.spaced hsecond hplain hdue hpaced.lane.launches_sublist ha hb hlast
      hlater hjk

end Polling

/-! ### Dispatches of a small world -/

namespace Sample

/-- The `n`th tick takes the item at a time, and its dispatch goes on until it is over. -/
def dispatchAt (n : Nat) (now : Time) : List (Action (World MemoryStore)) :=
  .startTick now :: List.replicate 6 (.stepTick n) ++
    [.beginCheck 0 (some (.finish (.outcome .pass))) now, .endCheck 0 0 now, .effect 0 now,
      .dropTask 0]

theorem spares_dispatchAt (n : Nat) (now : Time) (id : Uuid) :
    ∀ a ∈ dispatchAt n now, a.Spares id := by
  simp [dispatchAt, Action.Spares]

def minute : Span := ⟨60000000000⟩

def halfMinute : Time := (Time.ofParts? 30 0).getD .epoch

/-- The start in a small world whose item is due at a time. -/
def startDueAt (due : Time) : Polling (World MemoryStore) :=
  .start (.start (MemoryStore.empty.put { item with progress := .fresh due }) .empty .absent)

/-- Milliseconds from the start of the last second of June 2001 on. That second has as many as
two thousand of them if it ends in a leap second. -/
def june (second : Int) (millis : Nat) : Time :=
  (Time.ofParts? (993945599 + second) (millis * 1000000)).getD .epoch

/-- The item runs just before it is due. -/
def beforeLeap : List (Action (World MemoryStore)) := dispatchAt 0 (june 0 900)

/-- The item runs on time, in a leap second, and early. -/
def acrossLeap : List (Action (World MemoryStore)) :=
  dispatchAt 0 (june (-60) 900) ++ dispatchAt 1 (june 0 1100) ++ dispatchAt 2 (june 30 100)

end Sample

namespace Polling

/-- The item runs every minute. Its second dispatch comes half a minute early. -/
theorem keeps_cadence_sample :
    let as := Sample.dispatchAt 0 .epoch ++ Sample.dispatchAt 1 Sample.halfMinute
    (start Sample.world).launchTimes .standard Sample.item.id as = [.epoch, Sample.halfMinute] ∧
      KeepsCadence .standard Sample.item.id Sample.minute.nanos (start Sample.world) as := by
  intro as
  refine ⟨by decide +kernel, ?_⟩
  exact keeps_cadence Sample.item?_world rfl (by decide) rfl
    (List.forall_mem_append.2
      ⟨Sample.spares_dispatchAt 0 _ _, Sample.spares_dispatchAt 1 _ _⟩) (by decide +kernel)

/-- A leap second breaks the cadence of an item that runs every minute. If the item was saved to be
due inside it, a tick just before launches it, and writes a due time that is less than a minute
after the tick. If a tick starts inside it, three dispatches come within less than two minutes,
and the lookahead does not make up for it. -/
theorem cadence_leap_sample :
    Validation.checkInterval Sample.item.settings.intervalSeconds = .ok () ∧
    Sample.item.settings.interval? = some Sample.minute ∧
    (let p := Sample.startDueAt (Sample.june 0 1100)
     Milestone.Regular
        (Milestone.about Sample.item.id (p.run .standard Sample.beforeLeap).past) ∧
      p.launchTimes .standard Sample.item.id Sample.beforeLeap = [Sample.june 0 900] ∧
      ((p.run .standard Sample.beforeLeap).shared.world.item? Sample.item.id).map
        (·.progress.nextDue) = some (Sample.june 60 100) ∧
      (Sample.june 0 900).add? Sample.minute = some (Sample.june 60 900) ∧
      Sample.june 60 100 < Sample.june 60 900) ∧
    (let p := Sample.startDueAt (Sample.june (-60) 900)
     Milestone.Regular
        (Milestone.about Sample.item.id (p.run .standard Sample.acrossLeap).past) ∧
      p.launchTimes .standard Sample.item.id Sample.acrossLeap =
        [Sample.june (-60) 900, Sample.june 0 1100, Sample.june 30 100] ∧
      (Sample.june 30 100).instant - (Sample.june (-60) 900).instant +
        Timing.standard.lookahead.nanos < 2 * Sample.minute.nanos) := by
  decide +kernel

end Polling

end Vigil
