import Mathlib.Data.List.Nodup
import Vigil.Proofs.Polling.Claims
import Vigil.Proofs.Scheduler.Tick

/-!
# Launches are fresh

Between any two steps of a tick others may write and remove items, retests and
dispatches go on, and other ticks too. What a tick finds at each of its steps is kept
here as a list of moments, its course through a run. Whatever happens in between, an
item that the tick launches was listed, then claimed, and then found in the store as it
is launched, but for the times that the tick sets. `Tick.Moves` says once what a step of
a tick can do; what came before a launch is read off it backwards.
-/

namespace Vigil

/-- A step of a tick: the tick before it, and what the step finds. -/
structure Moment where
  tick : Tick
  shared : Shared (World MemoryStore)

namespace Moment

/-- The tick after the step. -/
def next (timing : Timing) (m : Moment) : Tick := (m.tick.step timing m.shared).1

/-- What the step leaves to others. -/
def left (timing : Timing) (m : Moment) : Shared (World MemoryStore) :=
  (m.tick.step timing m.shared).2.1

/-- What the step launches. -/
def launch? (timing : Timing) (m : Moment) : Option Launch := (m.tick.step timing m.shared).2.2

end Moment

namespace Polling

/-- The course of a tick through a run. It ends where the tick is dropped; where another
one is dropped, the number of the tick may change. -/
def course (timing : Timing) (n : Nat) (p : Polling (World MemoryStore)) :
    List (Action (World MemoryStore)) → List Moment
  | [] => []
  | .stepTick m :: as =>
    if m = n then
      match p.ticks[n]? with
      | none => []
      | some t => ⟨t, p.shared⟩ :: course timing n (p.act timing (.stepTick m)) as
    else course timing n (p.act timing (.stepTick m)) as
  | .dropTick m :: as =>
    if m = n then []
    else course timing (if m < n then n - 1 else n) (p.act timing (.dropTick m)) as
  | a :: as => course timing n (p.act timing a) as

end Polling

/-! ### Listings -/

/-- A sequence of two operations that was answered. -/
theorem Access.exists_of_bind_ok {σ α β : Type} {a : Access σ α} {f : α → Access σ β} {s u : σ}
    {y : β} (h : (a >>= f) s = (.ok y, u)) : ∃ x t, a s = (.ok x, t) ∧ f x t = (.ok y, u) := by
  cases ha : a s with
  | mk r t =>
    cases r with
    | ok x =>
        rw [Access.bind_of_ok ha] at h
        exact ⟨x, t, rfl, h⟩
    | error e =>
        rw [Access.bind_of_error ha] at h
        cases (Prod.mk.inj h).1

/-- A listing gives the items as they are when it is made, whatever is done right after it. -/
theorem World.eq_of_items_ok {w v : World MemoryStore} {items : List Item}
    (h : (Store.items : Access (World MemoryStore) _) w = (.ok items, v)) :
    items = w.store.inner.itemList := by
  have hstore : (World.onStore Store.items : Access (World MemoryStore) _) w = (.ok items, v) := h
  obtain ⟨store, hfaulty⟩ := Access.exists_of_zoom hstore
  obtain ⟨listed, t, hlisted, hrest⟩ := Access.exists_of_bind_ok (FaultyStore.of_guarded_ok hfaulty)
  obtain ⟨-, u, -, hreturn⟩ := Access.exists_of_bind_ok hrest
  obtain ⟨inner, hinner⟩ := Access.exists_of_zoom hlisted
  have hitems := MemoryStore.of_whenOn_ok hinner
  cases hreturn
  cases hitems
  rfl

/-! ### What a step of a tick can do -/

namespace Tick

/-- From a tick and what it finds, a step leads to a stage with a launch, if there is one,
and leaves some claims. -/
inductive Moves (t : Tick) (s : Shared (World MemoryStore)) :
    Stage → Option Launch → Claims → Prop where
  | rest : t.isOver = true → Moves t s t.stage none s.claims
  | list : t.stage = .enumerate →
      Moves t s (.claim (candidates t.horizon s.world.store.inner.itemList)) none s.claims
  | stop : t.stage = .enumerate → Moves t s .done none s.claims
  | finish : t.stage = .claim [] → Moves t s .done none s.claims
  | skip {c : Item} {rest : List Item} : t.stage = .claim (c :: rest) →
      Moves t s (.claim rest) none s.claims
  | claim {c : Item} {rest : List Item} {claims : Claims} : t.stage = .claim (c :: rest) →
      s.claims.claim? c.id = some claims → Moves t s (.reload c.id rest) none claims
  | load {id : Uuid} {rest : List Item} {old new : Item} : t.stage = .reload id rest →
      s.world.item? id = some old → old.isDue t.horizon = true →
      old.launchedAt? t.now = some new → Moves t s (.reschedule id new rest) none s.claims
  /-- The claim is given back, as the item is not due any more or cannot be loaded. -/
  | giveUp {id : Uuid} {rest : List Item} : t.stage = .reload id rest →
      Moves t s (.claim rest) none (s.claims.release id)
  | write {id : Uuid} {item : Item} {rest : List Item} : t.stage = .reschedule id item rest →
      Moves t s (.launch id item rest) none s.claims
  | launch {id : Uuid} {item : Item} {rest : List Item} (delay : Duration) :
      t.stage = .launch id item rest → Moves t s (.claim rest) (some ⟨id, item, delay⟩) s.claims
  /-- A time leaves its range, and the claim is given back. -/
  | overflow {id : Uuid} : t.guard? = some id → Moves t s .overflowed none (s.claims.release id)

variable {timing : Timing} {t : Tick} {s : Shared (World MemoryStore)}

theorem moves_step (timing : Timing) (t : Tick) (s : Shared (World MemoryStore)) :
    t.Moves s (t.step timing s).1.stage (t.step timing s).2.2 (t.step timing s).2.1.claims := by
  cases hstage : t.stage with
  | enumerate =>
      simp only [step, hstage, enumerateStep]
      split
      · next items world hitems =>
        rw [World.eq_of_items_ok hitems]
        exact .list hstage
      · exact .stop hstage
  | claim rest =>
      cases rest with
      | nil =>
          simp only [step, hstage]
          exact .finish hstage
      | cons c rest =>
          simp only [step, hstage, claimStep]
          split
          · next claims hclaims => exact .claim hstage hclaims
          · exact .skip hstage
  | reload id rest =>
      have hguard : t.guard? = some id := by simp only [guard?, hstage]
      simp only [step, hstage, reloadStep]
      rcases World.get?_cases id s.world with hget | ⟨e, hget⟩
      · rw [hget]
        cases hitem : s.world.item? id with
        | none => exact .giveUp hstage
        | some old =>
            dsimp only
            split
            · next hdue =>
              cases hnew : t.rearm? old with
              | none => exact .overflow hguard
              | some new =>
                  rw [rearm?_eq] at hnew
                  exact .load hstage hitem hdue hnew
            · exact .giveUp hstage
      · rw [hget]
        exact .giveUp hstage
  | reschedule id item rest =>
      simp only [step, hstage, rescheduleStep]
      exact .write hstage
  | launch id item rest =>
      have hguard : t.guard? = some id := by simp only [guard?, hstage]
      simp only [step, hstage, launchStep]
      split
      · next delay hdelay => exact .launch delay hstage
      · exact .overflow hguard
  | done =>
      have hmoves : t.Moves s t.stage none s.claims := .rest (by simp only [isOver, hstage])
      rw [hstage] at hmoves
      simp only [step, hstage]
      exact hmoves
  | overflowed =>
      have hmoves : t.Moves s t.stage none s.claims := .rest (by simp only [isOver, hstage])
      rw [hstage] at hmoves
      simp only [step, hstage]
      exact hmoves

/-- Before a launch the times of the item were written. -/
theorem Moves.stage_of_launch {next : Stage} {launch : Option Launch} {claims : Claims} {id : Uuid}
    {item : Item} {rest : List Item} (h : t.Moves s next launch claims)
    (hnext : next = .launch id item rest) : t.stage = .reschedule id item rest := by
  cases h with
  | rest hover => simp [isOver, hnext] at hover
  | write hstage =>
      cases hnext
      exact hstage
  | _ => cases hnext

/-- Before its times were written the item was loaded, and it was due. -/
theorem Moves.stage_of_reschedule {next : Stage} {launch : Option Launch} {claims : Claims}
    {id : Uuid} {item : Item} {rest : List Item} (h : t.Moves s next launch claims)
    (hnext : next = .reschedule id item rest) :
    t.stage = .reload id rest ∧ ∃ old, s.world.item? id = some old ∧
      old.isDue t.horizon = true ∧ old.launchedAt? t.now = some item := by
  cases h with
  | rest hover => simp [isOver, hnext] at hover
  | load hstage hitem hdue hnew =>
      cases hnext
      exact ⟨hstage, _, hitem, hdue, hnew⟩
  | _ => cases hnext

/-- Before it was loaded the item was claimed, and nobody had claimed it before. -/
theorem Moves.claims_of_reload {next : Stage} {launch : Option Launch} {claims : Claims}
    {id : Uuid} {rest : List Item} (h : t.Moves s next launch claims)
    (hnext : next = .reload id rest) :
    s.claims.holds id = false ∧ claims.holds id = true := by
  cases h with
  | rest hover => simp [isOver, hnext] at hover
  | @claim c rest claims hstage hclaim =>
      cases hnext
      constructor
      · refine Bool.eq_false_iff.2 fun hheld => ?_
        rw [Claims.claim?_eq_none_iff.2 hheld] at hclaim
        cases hclaim
      · rw [Claims.holds_of_claim? hclaim, decide_eq_true rfl, Bool.true_or]
  | _ => cases hnext

/-- Only the tick at the stage of a launch launches. -/
theorem Moves.stage_of_launched {next : Stage} {l : Launch} {claims : Claims}
    (h : t.Moves s next (some l) claims) : ∃ rest, t.stage = .launch l.claim l.item rest := by
  cases h with
  | launch delay hstage => exact ⟨_, hstage⟩

end Tick

namespace Stage

/-- The item that is loaded in the next step. -/
def loads? : Stage → Option Uuid
  | reload id _ => some id
  | _ => none

theorem exists_of_loads? {stage : Stage} {id : Uuid} (h : stage.loads? = some id) :
    ∃ rest, stage = reload id rest := by
  cases stage with
  | reload other rest =>
      cases h
      exact ⟨rest, rfl⟩
  | _ => cases h

/-- The items that may be loaded still. -/
def pending : Stage → List Uuid
  | enumerate => []
  | claim rest => rest.map (·.id)
  | reload id rest => id :: rest.map (·.id)
  | reschedule _ _ rest => rest.map (·.id)
  | launch _ _ rest => rest.map (·.id)
  | done => []
  | overflowed => []

end Stage

namespace Tick

variable {timing : Timing} {t : Tick} {s : Shared (World MemoryStore)}

theorem pending_of_isOver (h : t.isOver = true) :
    t.stage.loads? = none ∧ t.stage.pending = [] := by
  cases hstage : t.stage <;> simp_all [isOver, Stage.loads?, Stage.pending]

/-- Once the items are listed, what is loaded or may be loaded later could be loaded before. -/
theorem Moves.sublist_pending {next : Stage} {launch : Option Launch} {claims : Claims}
    (h : t.Moves s next launch claims) (hlisted : t.stage ≠ .enumerate) :
    (t.stage.loads?.toList ++ next.pending).Sublist t.stage.pending := by
  cases h with
  | rest hover => rw [(pending_of_isOver hover).1, Option.toList_none, List.nil_append]
  | list hstage => exact absurd hstage hlisted
  | stop hstage => exact absurd hstage hlisted
  | finish hstage => simp [hstage, Stage.loads?, Stage.pending]
  | skip hstage => simp [hstage, Stage.loads?, Stage.pending]
  | claim hstage => simp [hstage, Stage.loads?, Stage.pending]
  | load hstage => simp [hstage, Stage.loads?, Stage.pending]
  | giveUp hstage => simp [hstage, Stage.loads?, Stage.pending]
  | write hstage => simp [hstage, Stage.loads?, Stage.pending]
  | launch delay hstage => simp [hstage, Stage.loads?, Stage.pending]
  | overflow hguard =>
      cases hstage : t.stage <;> simp_all [guard?, Stage.loads?, Stage.pending]

theorem Moves.ne_enumerate {next : Stage} {launch : Option Launch} {claims : Claims}
    (h : t.Moves s next launch claims) : next ≠ .enumerate := by
  intro hnext
  cases h with
  | rest hover => simp [isOver, hnext] at hover
  | _ => cases hnext

/-- The times of a tick stay. -/
theorem times_step (timing : Timing) (t : Tick) (s : Shared (World MemoryStore)) :
    (t.step timing s).1.now = t.now ∧ (t.step timing s).1.horizon = t.horizon := by
  cases hstage : t.stage with
  | enumerate =>
      simp only [step, hstage, enumerateStep]
      split <;> exact ⟨rfl, rfl⟩
  | claim rest =>
      cases rest with
      | nil => simp only [step, hstage, goTo, and_self]
      | cons c rest =>
          simp only [step, hstage, claimStep]
          split <;> exact ⟨rfl, rfl⟩
  | reload id rest =>
      simp only [step, hstage, reloadStep]
      split
      · split
        · split <;> exact ⟨rfl, rfl⟩
        · exact ⟨rfl, rfl⟩
      · exact ⟨rfl, rfl⟩
  | reschedule id item rest => simp only [step, hstage, rescheduleStep, goTo, and_self]
  | launch id item rest =>
      simp only [step, hstage, launchStep]
      split <;> exact ⟨rfl, rfl⟩
  | done => simp only [step, hstage, and_self]
  | overflowed => simp only [step, hstage, and_self]

end Tick

/-! ### The course of a tick -/

namespace Moment

variable {timing : Timing} {now : Time} {t : Tick} {ms : List Moment}

/-- The moments are those of one tick, step after step. -/
def Traces (timing : Timing) : Tick → List Moment → Prop
  | _, [] => True
  | t, m :: ms => m.tick = t ∧ Traces timing (m.next timing) ms

theorem moves (timing : Timing) (m : Moment) :
    m.tick.Moves m.shared (m.next timing).stage (m.launch? timing) (m.left timing).claims :=
  Tick.moves_step timing m.tick m.shared

theorem next_of_isOver {m : Moment} (h : m.tick.isOver = true) : m.next timing = m.tick := by
  unfold Moment.next Tick.step
  unfold Tick.isOver at h
  split at h <;> simp_all

theorem Traces.tick_zero (h : Traces timing t ms) {m : Moment} (hm : ms[0]? = some m) :
    m.tick = t := by
  cases ms with
  | nil => cases hm
  | cons first ms =>
      cases hm
      exact h.1

/-- Every moment but the first one comes after another one. -/
theorem Traces.tick_succ (h : Traces timing t ms) {k : Nat} {m : Moment}
    (hm : ms[k + 1]? = some m) : ∃ before, ms[k]? = some before ∧ m.tick = before.next timing := by
  induction k generalizing t ms with
  | zero =>
      match ms, h with
      | [], _ => cases hm
      | first :: ms, h => exact ⟨first, rfl, h.2.tick_zero hm⟩
  | succ k ih =>
      match ms, h with
      | [], _ => cases hm
      | first :: ms, h => exact ih h.2 hm

/-- The times of a tick are those that it started with. -/
structure Timed (timing : Timing) (now : Time) (t : Tick) : Prop where
  now_eq : t.now = now
  horizon : t.isOver = false → timing.horizon? now = some t.horizon

theorem timed_start (timing : Timing) (now : Time) (stopping : Bool) :
    Timed timing now (Tick.start timing now stopping) := by
  unfold Tick.start
  split
  · exact ⟨rfl, fun h => by cases h⟩
  · split
    · exact ⟨rfl, fun h => by cases h⟩
    · next horizon h => exact ⟨rfl, fun _ => h⟩

theorem timed_next {m : Moment} (h : Timed timing now m.tick) :
    Timed timing now (m.next timing) := by
  obtain ⟨hnow, hhorizon⟩ := Tick.times_step timing m.tick m.shared
  refine ⟨hnow.trans h.now_eq, ?_⟩
  intro hgo
  rw [Moment.next, hhorizon]
  refine h.horizon (Bool.eq_false_iff.2 fun hover => ?_)
  rw [next_of_isOver hover, hover] at hgo
  cases hgo

theorem Traces.timed (h : Traces timing t ms) (ht : Timed timing now t) :
    ∀ m ∈ ms, Timed timing now m.tick := by
  induction ms generalizing t with
  | nil => exact fun m hm => absurd hm List.not_mem_nil
  | cons first ms ih =>
      intro m hm
      have hfirst : Timed timing now first.tick := h.1 ▸ ht
      rcases List.mem_cons.1 hm with rfl | hm
      · exact hfirst
      · exact ih h.2 (timed_next hfirst) m hm

/-- The items that are loaded, in order. -/
def loads (ms : List Moment) : List Uuid := ms.filterMap fun m => m.tick.stage.loads?

theorem loads_cons (m : Moment) (ms : List Moment) :
    loads (m :: ms) = m.tick.stage.loads?.toList ++ loads ms :=
  filterMap_cons_toList _ m ms

/-- What is loaded after the listing was among the candidates, and in their order. -/
theorem Traces.loads_sublist (h : Traces timing t ms) (hlisted : t.stage ≠ .enumerate) :
    (loads ms).Sublist t.stage.pending := by
  induction ms generalizing t with
  | nil => exact List.nil_sublist _
  | cons m ms ih =>
      obtain ⟨rfl, hrest⟩ := h
      have hstep := (m.moves timing).sublist_pending hlisted
      rw [loads_cons]
      exact ((ih hrest (m.moves timing).ne_enumerate).append_left _).trans hstep

/-- What a tick may load after its first step are the candidates, if there are any. -/
theorem pending_start {stopping : Bool} {m : Moment}
    (hm : m.tick = Tick.start timing now stopping) :
    m.tick.stage.loads? = none ∧ ((m.next timing).stage.pending = [] ∨
      (m.next timing).stage =
        .claim (Tick.candidates m.tick.horizon m.shared.world.store.inner.itemList)) := by
  have hstage : m.tick.stage = .enumerate ∨ m.tick.isOver = true := by
    rw [hm]
    unfold Tick.start
    split
    · exact Or.inr rfl
    · split
      · exact Or.inr rfl
      · exact Or.inl rfl
  rcases hstage with hstage | hover
  · refine ⟨by rw [hstage]; rfl, ?_⟩
    unfold Moment.next Tick.step
    rw [hstage]
    dsimp only [Tick.enumerateStep]
    split
    · next items world hitems =>
      rw [World.eq_of_items_ok hitems]
      exact Or.inr rfl
    · exact Or.inl rfl
  · rw [next_of_isOver hover]
    obtain ⟨hloads, hpending⟩ := Tick.pending_of_isOver hover
    exact ⟨hloads, Or.inl hpending⟩

/-- A tick loads no item twice, and only items that were stored and due as it listed them. -/
theorem loads_start {stopping : Bool} (h : Traces timing (Tick.start timing now stopping) ms) :
    (loads ms).Nodup ∧ ∀ id ∈ loads ms, ∃ first c, ms[0]? = some first ∧
      first.shared.world.item? id = some c ∧ c.isDue first.tick.horizon = true := by
  cases ms with
  | nil => exact ⟨List.nodup_nil, fun id hid => absurd hid List.not_mem_nil⟩
  | cons m ms =>
      obtain ⟨hnone, hpending⟩ := pending_start (m := m) h.1
      have hsub := h.2.loads_sublist (m.moves timing).ne_enumerate
      rw [loads_cons, hnone, Option.toList_none, List.nil_append]
      rcases hpending with hnil | hclaim
      · rw [hnil] at hsub
        rw [List.sublist_nil.1 hsub]
        exact ⟨List.nodup_nil, fun id hid => absurd hid List.not_mem_nil⟩
      · rw [hclaim] at hsub
        refine ⟨(Tick.nodup_candidates _ _).sublist hsub, ?_⟩
        intro id hid
        obtain ⟨c, hc, rfl⟩ := List.mem_map.1 (hsub.subset hid)
        obtain ⟨hstored, hdue⟩ := Tick.mem_candidates.1 hc
        exact ⟨m, c, rfl, hstored, hdue⟩

/-- An item is loaded at one moment only. -/
theorem eq_of_loads {j k : Nat} {m n : Moment} {id : Uuid} (h : (loads ms).Nodup)
    (hm : ms[j]? = some m) (hn : ms[k]? = some n) (hj : m.tick.stage.loads? = some id)
    (hk : n.tick.stage.loads? = some id) : j = k := by
  have hpairs := List.pairwise_filterMap.1 h
  obtain ⟨hjlt, rfl⟩ := List.getElem?_eq_some_iff.1 hm
  obtain ⟨hklt, rfl⟩ := List.getElem?_eq_some_iff.1 hn
  have hne := List.pairwise_iff_getElem.1 hpairs
  rcases Nat.lt_trichotomy j k with hlt | heq | hgt
  · exact absurd rfl (hne j k hjlt hklt hlt id hj id hk)
  · exact heq
  · exact absurd rfl (hne k j hklt hjlt hgt id hk id hj)

/-- A tick that has claimed an item has made a step before. -/
theorem Traces.exists_before {stopping : Bool}
    (h : Traces timing (Tick.start timing now stopping) ms) {k : Nat} {m : Moment} (id : Uuid)
    (hm : ms[k]? = some m) (hguard : m.tick.guard? = some id) :
    ∃ j before, k = j + 1 ∧ ms[j]? = some before ∧ m.tick = before.next timing := by
  cases k with
  | zero =>
      rw [h.tick_zero hm, Tick.guard?_start] at hguard
      cases hguard
  | succ j =>
      obtain ⟨before, hbefore, heq⟩ := h.tick_succ hm
      exact ⟨j, before, rfl, hbefore, heq⟩

/-- An item whose times are written was loaded one step before. -/
theorem Traces.loaded_of_reschedule {stopping : Bool}
    (h : Traces timing (Tick.start timing now stopping) ms) {k : Nat} {m : Moment} {id : Uuid}
    {item : Item} {rest : List Item} (hm : ms[k]? = some m)
    (hstage : m.tick.stage = .reschedule id item rest) :
    ∃ j loading old, k = j + 1 ∧ ms[j]? = some loading ∧
      loading.tick.stage = .reload id rest ∧ loading.shared.world.item? id = some old ∧
      old.isDue loading.tick.horizon = true ∧ old.launchedAt? loading.tick.now = some item := by
  obtain ⟨j, loading, rfl, hloading, heq⟩ :=
    h.exists_before id hm (by simp only [Tick.guard?, hstage])
  have hmoves := loading.moves timing
  rw [← heq] at hmoves
  obtain ⟨hreload, old, hold, hdue, hnew⟩ := hmoves.stage_of_reschedule hstage
  exact ⟨j, loading, old, rfl, hloading, hreload, hold, hdue, hnew⟩

/-- The times of an item that is launched were written one step before. -/
theorem Traces.rescheduled_of_launch {stopping : Bool}
    (h : Traces timing (Tick.start timing now stopping) ms) {k : Nat} {m : Moment} {l : Launch}
    (hm : ms[k]? = some m) (hl : m.launch? timing = some l) :
    ∃ j before rest, k = j + 1 ∧ ms[j]? = some before ∧
      before.tick.stage = .reschedule l.claim l.item rest := by
  have hmoves := m.moves timing
  rw [hl] at hmoves
  obtain ⟨rest, hstage⟩ := hmoves.stage_of_launched
  obtain ⟨j, before, rfl, hbefore, heq⟩ :=
    h.exists_before l.claim hm (by simp only [Tick.guard?, hstage])
  have hmoves := before.moves timing
  rw [← heq] at hmoves
  exact ⟨j, before, rest, rfl, hbefore, hmoves.stage_of_launch hstage⟩

/-- An item that is loaded was claimed one step before. -/
theorem Traces.claimed_of_reload {stopping : Bool}
    (h : Traces timing (Tick.start timing now stopping) ms) {k : Nat} {m : Moment} {id : Uuid}
    {rest : List Item} (hm : ms[k]? = some m) (hstage : m.tick.stage = .reload id rest) :
    ∃ j claiming, k = j + 1 ∧ ms[j]? = some claiming ∧
      claiming.shared.claims.holds id = false ∧
      (claiming.left timing).claims.holds id = true := by
  obtain ⟨j, claiming, rfl, hclaiming, heq⟩ :=
    h.exists_before id hm (by simp only [Tick.guard?, hstage])
  have hmoves := claiming.moves timing
  rw [← heq] at hmoves
  exact ⟨j, claiming, rfl, hclaiming, hmoves.claims_of_reload hstage⟩

end Moment

/-! ### Runs -/

namespace Polling

open Moment

variable {timing : Timing} {p : Polling (World MemoryStore)} {n : Nat}

/-- Nothing but its own steps, and drops before it, changes a tick or its number. -/
theorem ticks_act (timing : Timing) {t : Tick} (ht : p.ticks[n]? = some t)
    {a : Action (World MemoryStore)} (hstep : a ≠ .stepTick n) (hdrop : ∀ m, a ≠ .dropTick m) :
    (p.act timing a).ticks[n]? = some t := by
  cases a with
  | startTick now =>
      have hlt := (List.getElem?_eq_some_iff.1 ht).1
      exact (List.getElem?_append_left hlt).trans ht
  | stepTick m =>
      have hne : m ≠ n := fun heq => hstep (heq ▸ rfl)
      simp only [act]
      split
      · exact ht
      · exact (List.getElem?_set_ne hne).trans ht
  | dropTick m => exact absurd rfl (hdrop m)
  | beginCheck m program now =>
      simp only [act]
      split <;> exact ht
  | endCheck m waits now =>
      simp only [act]
      split <;> exact ht
  | effect m now =>
      simp only [act]
      split <;> exact ht
  | dropTask m =>
      simp only [act]
      split <;> exact ht
  | startRetest id => exact ht
  | startRetestAll => exact ht
  | stepRetest m now =>
      simp only [act]
      split <;> exact ht
  | shutDown => exact ht
  | outside change => exact ht

/-- A tick has another number once one before it is dropped. -/
theorem ticks_dropTick (timing : Timing) {t : Tick} (ht : p.ticks[n]? = some t) {m : Nat}
    (hne : m ≠ n) :
    (p.act timing (.dropTick m)).ticks[if m < n then n - 1 else n]? = some t := by
  have hlt := (List.getElem?_eq_some_iff.1 ht).1
  simp only [act]
  split
  · next hnone =>
    rw [if_neg fun h => Nat.not_lt.2 (List.getElem?_eq_none_iff.1 hnone) (Nat.lt_trans h hlt)]
    exact ht
  · rw [List.getElem?_eraseIdx]
    split
    · rw [if_neg (by omega), Nat.sub_add_cancel (by omega)]
      exact ht
    · rw [if_pos (by omega)]
      exact ht

/-- The course of a tick is traced step after step. -/
theorem traces_course {t : Tick} (timing : Timing) (ht : p.ticks[n]? = some t)
    (as : List (Action (World MemoryStore))) : Traces timing t (p.course timing n as) := by
  induction as generalizing p n t with
  | nil => trivial
  | cons a as ih =>
      cases a with
      | stepTick m =>
          simp only [course]
          split
          · next heq =>
            subst heq
            rw [ht]
            refine ⟨rfl, ih ?_⟩
            have hlt := (List.getElem?_eq_some_iff.1 ht).1
            simp only [act, ht]
            exact List.getElem?_set_self hlt
          · next hne => exact ih (ticks_act timing ht (by simpa using hne) (by simp))
      | dropTick m =>
          simp only [course]
          split
          · trivial
          · next hne => exact ih (ticks_dropTick timing ht hne)
      | startTick now => exact ih (ticks_act timing ht (by simp) (by simp))
      | beginCheck m program now => exact ih (ticks_act timing ht (by simp) (by simp))
      | endCheck m waits now => exact ih (ticks_act timing ht (by simp) (by simp))
      | effect m now => exact ih (ticks_act timing ht (by simp) (by simp))
      | dropTask m => exact ih (ticks_act timing ht (by simp) (by simp))
      | startRetest id => exact ih (ticks_act timing ht (by simp) (by simp))
      | startRetestAll => exact ih (ticks_act timing ht (by simp) (by simp))
      | stepRetest m now => exact ih (ticks_act timing ht (by simp) (by simp))
      | shutDown => exact ih (ticks_act timing ht (by simp) (by simp))
      | outside change => exact ih (ticks_act timing ht (by simp) (by simp))

/-- What a tick has claimed is claimed at each of its moments. -/
theorem holds_of_course (h : Accounted p.shared.claims p.guards)
    (as : List (Action (World MemoryStore))) {m : Moment} (hm : m ∈ p.course timing n as)
    {id : Uuid} (hguard : m.tick.guard? = some id) : m.shared.claims.holds id = true := by
  induction as generalizing p n with
  | nil => cases hm
  | cons a as ih =>
      have hnext := accounted_act timing h a
      cases a with
      | stepTick k =>
          simp only [course] at hm
          split at hm
          · split at hm
            · cases hm
            · next t ht =>
              rcases List.mem_cons.1 hm with rfl | hm
              · refine (h.holds_iff id).2 (List.mem_append_left _ ?_)
                exact List.mem_filterMap.2 ⟨t, List.mem_of_getElem? ht, hguard⟩
              · exact ih hnext hm
          · exact ih hnext hm
      | dropTick k =>
          simp only [course] at hm
          split at hm
          · cases hm
          · exact ih hnext hm
      | startTick now => exact ih hnext hm
      | beginCheck k program now => exact ih hnext hm
      | endCheck k waits now => exact ih hnext hm
      | effect k now => exact ih hnext hm
      | dropTask k => exact ih hnext hm
      | startRetest id => exact ih hnext hm
      | startRetestAll => exact ih hnext hm
      | stepRetest k now => exact ih hnext hm
      | shutDown => exact ih hnext hm
      | outside change => exact ih hnext hm

/-- An item is launched at moment `k` of a tick at `now` as it is fresh: it was stored as the
tick listed the items, it was claimed at a later moment when nobody held it, and after that,
while it was claimed, it was found stored and due as it is launched, but for its times. -/
def IsFresh (timing : Timing) (now : Time) (ms : List Moment) (k : Nat) (item : Item) : Prop :=
  ∃ i j, i < j ∧ j < k ∧ ∃ first claiming loading listed old horizon,
    ms[0]? = some first ∧ ms[i]? = some claiming ∧ ms[j]? = some loading ∧
    now.add? timing.lookaheadSpan = some horizon ∧
    first.shared.world.item? item.id = some listed ∧
    claiming.shared.claims.holds item.id = false ∧
    (claiming.left timing).claims.holds item.id = true ∧
    loading.shared.claims.holds item.id = true ∧
    loading.shared.world.item? item.id = some old ∧
    old.settings.enabled = true ∧ old.progress.nextDue ≤ horizon ∧
    old.launchedAt? now = some item

/-- At this moment of a tick an item that was claimed is loaded, and it is not there or not
due any more. -/
def IsLate (timing : Timing) (now : Time) (id : Uuid) (m : Moment) : Prop :=
  (∃ rest, m.tick.stage = .reload id rest) ∧
    ∀ horizon i, now.add? timing.lookaheadSpan = some horizon → m.shared.world.item? id = some i →
      ¬(i.settings.enabled = true ∧ i.progress.nextDue ≤ horizon)

/-- A tick launches fresh items only, none twice, and leaves alone what is late: it gives the
claim back, and neither launches the item nor writes its times. -/
structure LaunchesFresh (timing : Timing) (now : Time) (ms : List Moment) : Prop where
  fresh : ∀ k m l, ms[k]? = some m → m.launch? timing = some l →
    IsFresh timing now ms k l.item
  once : ∀ (j k : Nat) (m n : Moment) (l l' : Launch), ms[j]? = some m → ms[k]? = some n →
    m.launch? timing = some l → n.launch? timing = some l' → l.item.id = l'.item.id → j = k
  late : ∀ m ∈ ms, ∀ id, IsLate timing now id m →
    (m.left timing).claims.holds id = false ∧
      ∀ n ∈ ms, (∀ l, n.launch? timing = some l → l.item.id ≠ id) ∧
        ∀ claim item rest, n.tick.stage = .reschedule claim item rest → item.id ≠ id

section

variable {stopping : Bool} {now : Time} {ms : List Moment}

/-- A launched item was loaded two steps before, and claimed one step before that. -/
theorem exists_loaded (h : Traces timing (Tick.start timing now stopping) ms) {k : Nat}
    {m : Moment} {l : Launch} (hm : ms[k]? = some m) (hl : m.launch? timing = some l) :
    ∃ j loading before rest old, k = j + 2 ∧ ms[j]? = some loading ∧ ms[j + 1]? = some before ∧
      before.tick.stage = .reschedule l.claim l.item rest ∧
      loading.tick.stage = .reload l.item.id rest ∧
      loading.shared.world.item? l.item.id = some old ∧
      old.isDue loading.tick.horizon = true ∧ old.launchedAt? loading.tick.now = some l.item := by
  obtain ⟨i, before, rest, rfl, hbefore, hstage⟩ := h.rescheduled_of_launch hm hl
  obtain ⟨j, loading, old, rfl, hloading, hreload, hold, hdue, hnew⟩ :=
    h.loaded_of_reschedule hbefore hstage
  have hid : l.item.id = l.claim := (Item.launchedAt?_id hnew).trans (World.id_of_item? hold)
  rw [← hid] at hreload hold
  exact ⟨j, loading, before, rest, old, rfl, hloading, hbefore, hstage, hreload, hold, hdue, hnew⟩

/-- What is late is not due when it is loaded. -/
theorem not_isDue_of_isLate (h : Traces timing (Tick.start timing now stopping) ms) {m : Moment}
    {id : Uuid} (hm : m ∈ ms) (hlate : IsLate timing now id m) {i : Item}
    (hi : m.shared.world.item? id = some i) : i.isDue m.tick.horizon = false := by
  obtain ⟨⟨rest, hstage⟩, hlate⟩ := hlate
  have hgo : m.tick.isOver = false := by simp only [Tick.isOver, hstage]
  have hhorizon := (h.timed (timed_start timing now stopping) m hm).horizon hgo
  refine Bool.eq_false_iff.2 fun hdue => ?_
  exact hlate _ i (timing.horizon?_eq now ▸ hhorizon) hi (Item.isDue_iff.1 hdue)

/-- What is late is given back, and its times are not written next. -/
theorem left_of_isLate (h : Traces timing (Tick.start timing now stopping) ms) {m : Moment}
    {id : Uuid} (hm : m ∈ ms) (hlate : IsLate timing now id m) :
    (m.left timing).claims.holds id = false ∧
      ∀ claim item rest, (m.next timing).stage ≠ .reschedule claim item rest := by
  obtain ⟨rest, hstage⟩ := hlate.1
  have hgiven (c : Claims) : (c.release id).holds id = false := by
    rw [Claims.holds_release, decide_eq_true rfl, Bool.not_true, Bool.false_and]
  have hmoves := m.moves timing
  generalize (m.next timing).stage = next, m.launch? timing = launch,
    (m.left timing).claims = claims at hmoves ⊢
  cases hmoves with
  | rest hover => simp [Tick.isOver, hstage] at hover
  | load hload hitem hdue hnew =>
      rw [hstage] at hload
      cases hload
      rw [not_isDue_of_isLate h hm hlate hitem] at hdue
      cases hdue
  | giveUp hload =>
      rw [hstage] at hload
      cases hload
      exact ⟨hgiven _, by simp⟩
  | overflow hguard =>
      simp only [Tick.guard?, hstage, Option.some.injEq] at hguard
      rw [← hguard]
      exact ⟨hgiven _, by simp⟩
  | claim hclaim => simp [hstage] at hclaim
  | list hother => simp [hstage] at hother
  | stop hother => simp [hstage] at hother
  | finish hother => simp [hstage] at hother
  | skip hother => simp [hstage] at hother
  | write hother => simp [hstage] at hother
  | launch delay hother => simp [hstage] at hother

end

/-- Whatever goes on beside it, a tick launches fresh items only. -/
theorem launches_fresh (timing : Timing) (world : World MemoryStore) (now : Time)
    (before during : List (Action (World MemoryStore))) :
    let p := (start world).run timing before
    LaunchesFresh timing now
      ((p.act timing (.startTick now)).course timing p.ticks.length during) := by
  intro p
  have hstart : (p.act timing (.startTick now)).ticks[p.ticks.length]? =
      some (Tick.start timing now p.shared.stopping) := List.getElem?_concat_length
  have hacc : Accounted (p.act timing (.startTick now)).shared.claims
      (p.act timing (.startTick now)).guards :=
    accounted_act timing (accounted_run Accounted.empty before) (.startTick now)
  have htraces := traces_course timing hstart during
  have hheld {m : Moment} (hm : m ∈ (p.act timing (.startTick now)).course timing p.ticks.length
      during) {id : Uuid} (hguard : m.tick.guard? = some id) : m.shared.claims.holds id = true :=
    holds_of_course hacc during hm hguard
  generalize (p.act timing (.startTick now)).course timing p.ticks.length during = ms at *
  obtain ⟨hnodup, hlisted⟩ := loads_start htraces
  have htimed := htraces.timed (timed_start timing now p.shared.stopping)
  refine ⟨?_, ?_, ?_⟩
  · intro k m l hm hl
    obtain ⟨j, loading, before, rest, old, rfl, hloading, -, -, hreload, hold, hdue, hnew⟩ :=
      exists_loaded htraces hm hl
    obtain ⟨i, claiming, rfl, hclaiming, hfree, htaken⟩ :=
      htraces.claimed_of_reload hloading hreload
    have hmem : loading ∈ ms := List.mem_of_getElem? hloading
    have hgo : loading.tick.isOver = false := by simp only [Tick.isOver, hreload]
    obtain ⟨first, listed, hfirst, hstored, -⟩ := hlisted l.item.id
      (List.mem_filterMap.2 ⟨loading, hmem, by rw [hreload]; rfl⟩)
    obtain ⟨henabled, hnextDue⟩ := Item.isDue_iff.1 hdue
    rw [(htimed loading hmem).now_eq] at hnew
    exact ⟨i, i + 1, Nat.lt_succ_self i, by omega, first, claiming, loading, listed, old,
      loading.tick.horizon, hfirst, hclaiming, hloading,
      timing.horizon?_eq now ▸ (htimed loading hmem).horizon hgo, hstored,
      hfree, htaken, hheld hmem (by simp only [Tick.guard?, hreload]), hold, henabled, hnextDue,
      hnew⟩
  · intro j k m n l l' hm hn hl hl' hid
    obtain ⟨i, loading, -, rest, -, rfl, hloading, -, -, hreload, -⟩ := exists_loaded htraces hm hl
    obtain ⟨i', loading', -, rest', -, rfl, hloading', -, -, hreload', -⟩ :=
      exists_loaded htraces hn hl'
    rw [eq_of_loads hnodup hloading hloading' (by rw [hreload]; rfl) (by rw [hreload', hid]; rfl)]
  · intro m hm id hlate
    obtain ⟨hleft, hnext⟩ := left_of_isLate htraces hm hlate
    obtain ⟨late, hstage⟩ := hlate.1
    obtain ⟨j, hj⟩ := List.getElem?_of_mem hm
    -- The item is loaded at this moment only, and its times are not written at the next one.
    have hnever {i : Nat} {loading before : Moment} {claim : Uuid} {item : Item}
        {rest later : List Item} (hloading : ms[i]? = some loading)
        (hreload : loading.tick.stage = .reload id later) (hbefore : ms[i + 1]? = some before) :
        before.tick.stage ≠ .reschedule claim item rest := by
      obtain rfl := eq_of_loads hnodup hj hloading (by rw [hstage]; rfl) (by rw [hreload]; rfl)
      obtain ⟨m', hm', heq⟩ := htraces.tick_succ hbefore
      rw [hj] at hm'
      cases hm'
      rw [heq]
      exact hnext claim item rest
    refine ⟨hleft, ?_⟩
    intro n hn
    obtain ⟨k, hk⟩ := List.getElem?_of_mem hn
    constructor
    · intro l hl hid
      obtain ⟨i, loading, before, rest, -, rfl, hloading, hbefore, hstage, hreload, -⟩ :=
        exists_loaded htraces hk hl
      exact hnever hloading (hid ▸ hreload) hbefore hstage
    · intro claim item rest hstage hid
      obtain ⟨i, loading, old, rfl, hloading, hreload, hold, -, hnew⟩ :=
        htraces.loaded_of_reschedule hk hstage
      have hclaim : claim = id :=
        ((Item.launchedAt?_id hnew).trans (World.id_of_item? hold)).symm.trans hid
      exact hnever hloading (hclaim ▸ hreload) hk hstage

/-- A tick launches the item of a small world at its fifth moment, and the item is fresh. If
the item is removed while it is claimed, it is late at the third moment, and its claim is given
back. -/
theorem launches_fresh_sample :
    let p := (start Sample.world).act .standard (.startTick .epoch)
    let removed : List (Action (World MemoryStore)) := [.stepTick 0, .stepTick 0,
      .outside fun w => ((Store.delete Sample.item.id : Access (World MemoryStore) _) w).2,
      .stepTick 0]
    (∃ l, ((p.course .standard 0 (List.replicate 6 (.stepTick 0)))[4]?.bind
        (Moment.launch? .standard)) = some l ∧
      IsFresh .standard .epoch (p.course .standard 0 (List.replicate 6 (.stepTick 0))) 4 l.item) ∧
    ∃ m ∈ p.course .standard 0 removed, IsLate .standard .epoch Sample.item.id m ∧
      (m.left .standard).claims.holds Sample.item.id = false := by
  intro p removed
  have hlaunch := launches_fresh .standard Sample.world .epoch [] (List.replicate 6 (.stepTick 0))
  have hremoved := launches_fresh .standard Sample.world .epoch [] removed
  constructor
  · obtain ⟨l, hl⟩ := Option.isSome_iff_exists.1
      (show ((p.course .standard 0 (List.replicate 6 (.stepTick 0)))[4]?.bind
        (Moment.launch? .standard)).isSome = true by decide +kernel)
    obtain ⟨m, hm, hlaunched⟩ := Option.bind_eq_some_iff.1 hl
    exact ⟨l, hl, hlaunch.fresh 4 m l hm hlaunched⟩
  · obtain ⟨m, hm⟩ := Option.isSome_iff_exists.1
      (show (p.course .standard 0 removed)[2]?.isSome = true by decide +kernel)
    have hload : ((p.course .standard 0 removed)[2]?.bind fun m => m.tick.stage.loads?) =
        some Sample.item.id := by decide +kernel
    have hgone : ((p.course .standard 0 removed)[2]?.bind fun m =>
        m.shared.world.item? Sample.item.id).isNone = true := by decide +kernel
    rw [hm, Option.bind_some] at hload hgone
    have hlate : IsLate .standard .epoch Sample.item.id m := by
      refine ⟨Stage.exists_of_loads? hload, ?_⟩
      intro horizon i _ hi
      rw [hi] at hgone
      cases hgone
    exact ⟨m, List.mem_of_getElem? hm, hlate, (hremoved.late m (List.mem_of_getElem? hm) _ hlate).1⟩

end Polling

end Vigil
