import Mathlib.Data.List.Nodup
import Mathlib.Data.List.Perm.Basic
import Vigil.Proofs.Polling.Basic
import Vigil.Proofs.Store.Keyed

/-!
# Claims are exclusive

A claim is taken by a tick, goes with the launch into a dispatch, and is given back
when its holder is over or dropped. The invariant ties the set of claims to those
who hold them: `Accounted claims guards` says that the guards are all different and
that exactly their items are claimed. Each action adds a guard, takes one away or
moves one, and keeps the invariant.
-/

namespace Vigil

/-! ### One element of two lists

Ticks and dispatches are kept in two lists, and what they hold is gathered from both.
Here one element of one of the lists is taken out, up to the order of the rest.
-/

section

variable {α β γ : Type*} (f : α → Option γ) (g : β → Option γ) {as : List α} {bs : List β}
variable {n : Nat}

theorem filterMap_cons_toList (a : α) (l : List α) :
    (a :: l).filterMap f = (f a).toList ++ l.filterMap f := by
  cases h : f a with
  | none => simp [h]
  | some b => simp [h]

theorem filterMap_perm_left {a : α} (h : as[n]? = some a) :
    (as.filterMap f ++ bs.filterMap g).Perm
      ((f a).toList ++ ((as.eraseIdx n).filterMap f ++ bs.filterMap g)) := by
  obtain ⟨hn, rfl⟩ := List.getElem?_eq_some_iff.1 h
  have hperm := (List.getElem_cons_eraseIdx_perm hn).symm.filterMap f
  rw [filterMap_cons_toList] at hperm
  rw [← List.append_assoc]
  exact hperm.append_right _

theorem filterMap_perm_right {b : β} (h : bs[n]? = some b) :
    (as.filterMap f ++ bs.filterMap g).Perm
      ((g b).toList ++ (as.filterMap f ++ (bs.eraseIdx n).filterMap g)) := by
  obtain ⟨hn, rfl⟩ := List.getElem?_eq_some_iff.1 h
  have hperm := (List.getElem_cons_eraseIdx_perm hn).symm.filterMap g
  rw [filterMap_cons_toList] at hperm
  exact (hperm.append_left _).trans (List.perm_append_comm_assoc _ _ _)

theorem filterMap_perm_set_right {b : β} (h : bs[n]? = some b) (new : β) :
    (as.filterMap f ++ (bs.set n new).filterMap g).Perm
      ((g new).toList ++ (as.filterMap f ++ (bs.eraseIdx n).filterMap g)) := by
  obtain ⟨hn, rfl⟩ := List.getElem?_eq_some_iff.1 h
  have hperm := (List.set_perm_cons_eraseIdx hn new).filterMap g
  rw [filterMap_cons_toList] at hperm
  exact (hperm.append_left _).trans (List.perm_append_comm_assoc _ _ _)

theorem filterMap_set_of_eq {a new : α} (h : as[n]? = some a) (hnew : f new = f a) :
    (as.set n new).filterMap f = as.filterMap f := by
  obtain ⟨hn, rfl⟩ := List.getElem?_eq_some_iff.1 h
  have hmap (l : List α) : l.filterMap f = (l.map f).filterMap id := by
    rw [List.filterMap_map]
    rfl
  have hself : (as.map f).set n _ = _ := List.set_getElem_self (by simpa using hn)
  rw [List.getElem_map] at hself
  rw [hmap, List.map_set, hnew, hself, ← hmap]

/-- One element of the first list is replaced, and the second list may grow by one. -/
theorem filterMap_perm_set_left {a : α} (h : as[n]? = some a) (new : α) (more : Option β) :
    ((as.set n new).filterMap f ++ (bs ++ more.toList).filterMap g).Perm
      ((f new).toList ++
        ((more.bind g).toList ++ ((as.eraseIdx n).filterMap f ++ bs.filterMap g))) := by
  obtain ⟨hn, rfl⟩ := List.getElem?_eq_some_iff.1 h
  have hperm := (List.set_perm_cons_eraseIdx hn new).filterMap f
  rw [filterMap_cons_toList] at hperm
  have hmore : more.toList.filterMap g = (more.bind g).toList := by
    cases more with
    | none => rfl
    | some b => simp [filterMap_cons_toList]
  rw [List.filterMap_append, hmore]
  refine (hperm.append_right _).trans ?_
  rw [List.append_assoc]
  refine List.Perm.append_left _ ?_
  rw [← List.append_assoc]
  exact List.perm_append_comm

end

/-! ### Claims and guards -/

/-- The guards are all different, and what they guard is what is claimed. -/
structure Accounted (claims : Claims) (guards : List Uuid) : Prop where
  nodup : guards.Nodup
  holds_iff : ∀ id, claims.holds id = true ↔ id ∈ guards

namespace Accounted

variable {c d : Claims} {id : Uuid} {guards others : List Uuid}

theorem empty : Accounted .empty [] := by
  refine ⟨List.nodup_nil, ?_⟩
  intro id
  simp [Claims.holds, Claims.empty]

theorem perm (h : Accounted c guards) (hp : guards.Perm others) : Accounted c others := by
  refine ⟨hp.nodup_iff.1 h.nodup, ?_⟩
  intro id
  rw [h.holds_iff, hp.mem_iff]

/-- A claim can only be taken on what nobody guards, and adds a guard. -/
theorem claim (h : Accounted c guards) (hd : c.claim? id = some d) :
    Accounted d (id :: guards) := by
  have hfree : id ∉ guards := by
    intro hmem
    have hnone := Claims.claim?_eq_none_iff.2 ((h.holds_iff id).2 hmem)
    rw [hnone] at hd
    exact absurd hd (by simp)
  refine ⟨List.nodup_cons.2 ⟨hfree, h.nodup⟩, ?_⟩
  intro other
  rw [Claims.holds_of_claim? hd, List.mem_cons, Bool.or_eq_true, decide_eq_true_iff,
    h.holds_iff, eq_comm]

/-- What is given back is not guarded any more, since no two guards guard the same. -/
theorem release (h : Accounted c (id :: guards)) : Accounted (c.release id) guards := by
  have hnodup := List.nodup_cons.1 h.nodup
  refine ⟨hnodup.2, ?_⟩
  intro other
  rw [Claims.holds_release, Bool.and_eq_true, h.holds_iff, List.mem_cons]
  constructor
  · rintro ⟨hne, rfl | hmem⟩
    · simp at hne
    · exact hmem
  · intro hmem
    have hne : id ≠ other := by
      rintro rfl
      exact hnodup.1 hmem
    exact ⟨by simpa using hne, Or.inr hmem⟩

/-- Without guards nothing is claimed. -/
theorem eq_empty (h : Accounted c []) : c = .empty := by
  obtain ⟨ids⟩ := c
  have hids : ids = ∅ := by
    apply Std.ExtTreeSet.ext_contains
    intro id
    have hfree : ids.contains id = false :=
      Bool.eq_false_iff.2 ((h.holds_iff id).not.2 List.not_mem_nil)
    rw [hfree, Std.ExtTreeSet.contains_empty]
  rw [hids, Claims.empty]

end Accounted

/-! ### Steps -/

namespace Tick

variable {σ : Type} [Store σ] {timing : Timing} {t : Tick} {s : Shared σ} {others : List Uuid}

/-- A tick that starts has claimed nothing. -/
theorem guard?_start (timing : Timing) (now : Time) (stopping : Bool) :
    (start timing now stopping).guard? = none := by
  unfold start
  split
  · rfl
  · split <;> rfl

/-- A tick that is over has given its claims back. -/
theorem guard?_of_isOver (h : t.isOver = true) : t.guard? = none := by
  unfold isOver at h
  unfold guard?
  cases hstage : t.stage <;> simp_all

/-- A step of a tick keeps the account: the guard of the tick stays with it, or goes
with the launch, or is given back. -/
theorem accounted_step (timing : Timing) (h : Accounted s.claims (t.guard?.toList ++ others)) :
    Accounted (t.step timing s).2.1.claims
      ((t.step timing s).1.guard?.toList ++
        (((t.step timing s).2.2.map Launch.claim).toList ++ others)) := by
  -- The guard is known once the stage is, so the account before the step is rewritten first.
  cases hstage : t.stage with
  | enumerate =>
      have hnone : t.guard? = none := by simp only [guard?, hstage]
      rw [hnone] at h
      simp only [step, hstage, enumerateStep]
      split <;> exact h
  | claim rest =>
      have hnone : t.guard? = none := by simp only [guard?, hstage]
      rw [hnone] at h
      cases rest with
      | nil =>
          simp only [step, hstage]
          exact h
      | cons candidate rest =>
          simp only [step, hstage, claimStep]
          split
          · next claims hclaims => exact h.claim hclaims
          · exact h
  | reload id rest =>
      have hsome : t.guard? = some id := by simp only [guard?, hstage]
      rw [hsome] at h
      simp only [step, hstage, reloadStep]
      split
      · split
        · split
          · exact h
          · exact h.release
        · exact h.release
      · exact h.release
  | reschedule id item rest =>
      have hsome : t.guard? = some id := by simp only [guard?, hstage]
      rw [hsome] at h
      simp only [step, hstage, rescheduleStep]
      exact h
  | launch id item rest =>
      have hsome : t.guard? = some id := by simp only [guard?, hstage]
      rw [hsome] at h
      simp only [step, hstage, launchStep]
      split
      · exact h
      · exact h.release
  | done =>
      have hnone : t.guard? = none := by simp only [guard?, hstage]
      rw [hnone] at h
      simp only [step, hstage]
      simpa [hnone] using h
  | overflowed =>
      have hnone : t.guard? = none := by simp only [guard?, hstage]
      rw [hnone] at h
      simp only [step, hstage]
      simpa [hnone] using h

/-- The item that a tick has loaded is the one that it has claimed. -/
def Keyed (t : Tick) : Prop :=
  match t.stage with
  | .reschedule id item _ => item.id = id
  | .launch id item _ => item.id = id
  | _ => True

theorem rearm?_id {item new : Item} (h : t.rearm? item = some new) : new.id = item.id := by
  obtain ⟨moved, hmoved, rfl⟩ := Option.map_eq_some_iff.1 h
  obtain ⟨due, -, rfl⟩ := Option.map_eq_some_iff.1 hmoved
  rfl

end Tick

namespace Tick

variable {σ : Type} [Store σ] [KeyedStore σ] {timing : Timing} {t : Tick} {s : Shared σ}

theorem keyed_start (timing : Timing) (now : Time) (stopping : Bool) :
    (start timing now stopping).Keyed := by
  unfold start
  split
  · trivial
  · split <;> trivial

theorem keyed_step (timing : Timing) (h : t.Keyed) :
    (t.step timing s).1.Keyed ∧ ∀ l ∈ (t.step timing s).2.2, l.item.id = l.claim := by
  cases hstage : t.stage with
  | enumerate =>
      simp only [step, hstage, enumerateStep]
      split <;> exact ⟨trivial, by simp⟩
  | claim rest =>
      cases rest with
      | nil =>
          simp only [step, hstage]
          exact ⟨trivial, by simp⟩
      | cons candidate rest =>
          simp only [step, hstage, claimStep]
          split <;> exact ⟨trivial, by simp⟩
  | reload id rest =>
      simp only [step, hstage, reloadStep]
      split
      · next item world hget =>
        have hid : item.id = id := KeyedStore.id_of_get? hget
        split
        · split
          · next new hnew => exact ⟨(rearm?_id hnew).trans hid, by simp⟩
          · exact ⟨trivial, by simp⟩
        · exact ⟨trivial, by simp⟩
      · exact ⟨trivial, by simp⟩
  | reschedule id item rest =>
      have hid : item.id = id := by simpa only [Keyed, hstage] using h
      simp only [step, hstage, rescheduleStep]
      exact ⟨hid, by simp⟩
  | launch id item rest =>
      have hid : item.id = id := by simpa only [Keyed, hstage] using h
      simp only [step, hstage, launchStep]
      split
      · refine ⟨trivial, ?_⟩
        rintro l ⟨⟩
        exact hid
      · exact ⟨trivial, by simp⟩
  | done =>
      simp only [step, hstage]
      exact ⟨h, by simp⟩
  | overflowed =>
      simp only [step, hstage]
      exact ⟨h, by simp⟩

end Tick

namespace Task

variable {σ : Type} [Store σ] [Directory σ] [Exporter σ]

/-- The probe of a dispatch is at work. -/
def isChecking (t : Task) : Bool :=
  match t.phase with
  | .checking _ _ _ => true
  | _ => false

/-- A dispatch keeps its copy of the item and its claim while it goes on. -/
structure Follows (t u : Task) : Prop where
  item : u.item = t.item
  claim : u.claim = t.claim

theorem follows_begin (t : Task) (stopping : Bool) (grace : Duration)
    (program : Option (Unit → Program)) (now : Time) :
    t.Follows (t.begin stopping grace program now) := by
  unfold begin
  split
  · exact ⟨rfl, rfl⟩
  · split
    · exact ⟨rfl, rfl⟩
    · split <;> exact ⟨rfl, rfl⟩

theorem follows_beginCheck (t : Task) (stopping : Bool) (grace : Duration)
    (program : Option Program) (now : Time) :
    t.Follows (t.beginCheck stopping grace program now).1 := by
  unfold beginCheck
  split
  · dsimp only
    split <;> exact follows_begin t stopping grace _ now
  · exact ⟨rfl, rfl⟩

theorem follows_endCheck (t : Task) (waits : Nat) (now : Time) :
    t.Follows (t.endCheck waits now).1 := by
  unfold endCheck
  split <;> exact ⟨rfl, rfl⟩

theorem follows_recordStep (t : Task) (now : Time) (s : Shared σ) :
    t.Follows (t.recordStep now s).1 := by
  unfold recordStep
  split <;> exact ⟨rfl, rfl⟩

theorem claims_recordStep (t : Task) (now : Time) (s : Shared σ) :
    (t.recordStep now s).2.claims = s.claims := by
  unfold recordStep
  split <;> rfl

end Task

/-! ### Runs -/

namespace Polling

variable {σ : Type} [Store σ] [Directory σ] [Exporter σ]
variable {timing : Timing} {p : Polling σ} {n : Nat}

/-- The claims that somebody holds. -/
def guards (p : Polling σ) : List Uuid :=
  p.ticks.filterMap Tick.guard? ++ p.tasks.filterMap Task.claim

omit [Store σ] [Directory σ] [Exporter σ] in
theorem guards_setTask {t : Task} (h : p.tasks[n]? = some t) {r : Task × List Milestone}
    (hr : t.Follows r.1) : (p.setTask n r).guards = p.guards := by
  rw [guards, guards]
  exact congrArg _ (filterMap_set_of_eq Task.claim h hr.claim)

theorem accounted_act (timing : Timing) (h : Accounted p.shared.claims p.guards) (a : Action σ) :
    Accounted (p.act timing a).shared.claims (p.act timing a).guards := by
  cases a with
  | startTick now =>
      have hguards : (p.act timing (.startTick now)).guards = p.guards := by
        simp [guards, act, Tick.guard?_start]
      rw [hguards]
      exact h
  | stepTick n =>
      simp only [act]
      split
      · exact h
      · next t ht =>
        have hstep := Tick.accounted_step timing
          (h.perm (filterMap_perm_left Tick.guard? Task.claim ht))
        have hlaunch (launch : Option Launch) :
            (launch.map Task.ofLaunch).bind Task.claim = launch.map Launch.claim := by
          cases launch <;> rfl
        rw [← hlaunch] at hstep
        exact hstep.perm (filterMap_perm_set_left Tick.guard? Task.claim ht _ _).symm
  | dropTick n =>
      simp only [act]
      split
      · exact h
      · next t ht =>
        have hp := h.perm (filterMap_perm_left Tick.guard? Task.claim ht)
        cases hguard : t.guard? with
        | none =>
            rw [hguard] at hp
            simp only [guards, Tick.release, hguard]
            exact hp
        | some id =>
            rw [hguard] at hp
            simp only [guards, Tick.release, hguard]
            exact hp.release
  | beginCheck n program now =>
      simp only [act]
      split
      · exact h
      · next t ht =>
        rw [guards_setTask ht (Task.follows_beginCheck t _ _ _ _)]
        exact h
  | endCheck n waits now =>
      simp only [act]
      split
      · exact h
      · next t ht =>
        rw [guards_setTask ht (Task.follows_endCheck t _ _)]
        exact h
  | effect n now =>
      simp only [act]
      split
      · exact h
      · next t ht =>
        have hguards := guards_setTask ht (r := (_, t.milestones now p.shared))
          (Task.follows_recordStep t now p.shared)
        dsimp only [advance]
        rw [Task.claims_recordStep]
        exact hguards ▸ h
  | dropTask n =>
      simp only [act]
      split
      · exact h
      · next t ht =>
        have hp := h.perm (filterMap_perm_right Tick.guard? Task.claim ht)
        cases hclaim : t.claim with
        | none =>
            rw [hclaim] at hp
            simp only [guards, Task.release, hclaim]
            exact hp
        | some id =>
            rw [hclaim] at hp
            simp only [guards, Task.release, hclaim]
            exact hp.release
  | startRetest id => exact h
  | startRetestAll => exact h
  | stepRetest n now =>
      simp only [act]
      split <;> exact h
  | shutDown => exact h
  | outside change => exact h

theorem accounted_run (h : Accounted p.shared.claims p.guards) (as : List (Action σ)) :
    Accounted (p.run timing as).shared.claims (p.run timing as).guards := by
  induction as generalizing p with
  | nil => exact h
  | cons a as ih => exact ih (accounted_act timing h a)

/-- Ticks and dispatches work on the items that they have claimed. -/
structure Keyed (p : Polling σ) : Prop where
  ticks : ∀ t ∈ p.ticks, t.Keyed
  tasks : ∀ t ∈ p.tasks, t.claim = some t.item.id

omit [Store σ] [Directory σ] [Exporter σ] in
theorem keyed_start (world : σ) : (start world).Keyed := by
  constructor <;> simp [start]

omit [Store σ] [Directory σ] [Exporter σ] in
theorem keyed_setTask (h : p.Keyed) {t : Task} (ht : p.tasks[n]? = some t)
    {r : Task × List Milestone} (hr : t.Follows r.1) : (p.setTask n r).Keyed := by
  refine ⟨h.ticks, ?_⟩
  intro u hu
  rcases List.mem_or_eq_of_mem_set hu with hu | rfl
  · exact h.tasks u hu
  · rw [hr.claim, hr.item]
    exact h.tasks t (List.mem_of_getElem? ht)

theorem keyed_act [KeyedStore σ] (timing : Timing) (h : p.Keyed) (a : Action σ) :
    (p.act timing a).Keyed := by
  cases a with
  | startTick now =>
      refine ⟨?_, h.tasks⟩
      intro t ht
      rcases List.mem_append.1 ht with ht | ht
      · exact h.ticks t ht
      · rw [List.mem_singleton.1 ht]
        exact Tick.keyed_start timing now _
  | stepTick n =>
      simp only [act]
      split
      · exact h
      · next t ht =>
        have hstep := Tick.keyed_step (s := p.shared) timing
          (h.ticks t (List.mem_of_getElem? ht))
        constructor
        · intro u hu
          rcases List.mem_or_eq_of_mem_set hu with hu | rfl
          · exact h.ticks u hu
          · exact hstep.1
        · intro u hu
          rcases List.mem_append.1 hu with hu | hu
          · exact h.tasks u hu
          · obtain ⟨l, hl, rfl⟩ := Option.map_eq_some_iff.1 (Option.mem_toList.1 hu)
            exact congrArg some (hstep.2 l hl).symm
  | dropTick n =>
      simp only [act]
      split
      · exact h
      · exact ⟨fun t ht => h.ticks t (List.mem_of_mem_eraseIdx ht), h.tasks⟩
  | beginCheck n program now =>
      simp only [act]
      split
      · exact h
      · next t ht => exact keyed_setTask h ht (Task.follows_beginCheck t _ _ _ _)
  | endCheck n waits now =>
      simp only [act]
      split
      · exact h
      · next t ht => exact keyed_setTask h ht (Task.follows_endCheck t _ _)
  | effect n now =>
      simp only [act]
      split
      · exact h
      · next t ht =>
        have hset := keyed_setTask h ht (r := (_, t.milestones now p.shared))
          (Task.follows_recordStep t now p.shared)
        exact ⟨hset.ticks, hset.tasks⟩
  | dropTask n =>
      simp only [act]
      split
      · exact h
      · exact ⟨h.ticks, fun t ht => h.tasks t (List.mem_of_mem_eraseIdx ht)⟩
  | startRetest id => exact ⟨h.ticks, h.tasks⟩
  | startRetestAll => exact ⟨h.ticks, h.tasks⟩
  | stepRetest n now =>
      simp only [act]
      split
      · exact h
      · exact ⟨h.ticks, h.tasks⟩
  | shutDown => exact ⟨h.ticks, h.tasks⟩
  | outside change => exact ⟨h.ticks, h.tasks⟩

theorem keyed_run [KeyedStore σ] (h : p.Keyed) (as : List (Action σ)) :
    (p.run timing as).Keyed := by
  induction as generalizing p with
  | nil => exact h
  | cons a as ih => exact ih (keyed_act timing h a)

/-- The checks of an item that are under way. -/
def checksOf (p : Polling σ) (id : Uuid) : List Task :=
  p.tasks.filter fun t => t.isChecking && t.item.id == id

omit [Store σ] [Directory σ] [Exporter σ] in
/-- Each check of an item has a guard of its own. -/
theorem length_checksOf_le (h : p.Keyed) (id : Uuid) :
    (p.checksOf id).length ≤ p.guards.count id := by
  have htasks : (p.checksOf id).length ≤ (p.tasks.filterMap Task.claim).count id := by
    rw [checksOf, ← List.countP_eq_length_filter, List.count_filterMap]
    refine List.countP_mono_left ?_
    intro t ht hcheck
    have hid : t.item.id = id := by
      simpa using (Bool.and_eq_true_iff.1 hcheck).2
    rw [h.tasks t ht, hid]
    exact beq_self_eq_true _
  rw [guards, List.count_append]
  omega

omit [Store σ] [Directory σ] [Exporter σ] in
/-- When no tick goes on any more and no dispatch is left, nobody holds a claim. -/
theorem guards_eq_nil (hticks : ∀ t ∈ p.ticks, t.isOver = true) (htasks : p.tasks = []) :
    p.guards = [] := by
  have hguards : p.ticks.filterMap Tick.guard? = [] :=
    List.filterMap_eq_nil_iff.2 fun t ht => Tick.guard?_of_isOver (hticks t ht)
  rw [guards, hguards, htasks]
  rfl

/-- Whatever happens in whatever order, an item is claimed exactly when somebody
guards it, nobody else guards it then, no two checks of it are under way at once,
and no claim is left when everybody is done. -/
theorem claims_exclusive [KeyedStore σ] (timing : Timing) (world : σ) (as : List (Action σ)) :
    let p := (start world).run timing as
    (∀ id, p.shared.claims.holds id = true ↔ id ∈ p.guards) ∧
      p.guards.Nodup ∧
      (∀ id, (p.checksOf id).length ≤ 1) ∧
      ((∀ t ∈ p.ticks, t.isOver = true) → p.tasks = [] → p.shared.claims = .empty) := by
  intro p
  have hacc : Accounted p.shared.claims p.guards := accounted_run Accounted.empty as
  refine ⟨hacc.holds_iff, hacc.nodup, ?_, ?_⟩
  · intro id
    -- A check has a guard on its own item, and no item has two.
    have hkeyed : p.Keyed := keyed_run (keyed_start world) as
    have hone := List.nodup_iff_count_le_one.1 hacc.nodup id
    exact Nat.le_trans (length_checksOf_le hkeyed id) hone
  · intro hticks htasks
    rw [guards_eq_nil hticks htasks] at hacc
    exact hacc.eq_empty

/-- A check is under way, and when its dispatch is dropped its claim is gone. -/
theorem claims_exclusive_sample :
    (((start Sample.world).run .standard Sample.check).checksOf Sample.item.id).length = 1 ∧
      ((start Sample.world).run .standard (Sample.check ++ [.dropTask 0])).shared.claims =
        .empty := by
  have hone := claims_exclusive .standard Sample.world Sample.check
  have hnone := claims_exclusive .standard Sample.world (Sample.check ++ [.dropTask 0])
  refine ⟨Nat.le_antisymm (hone.2.2.1 Sample.item.id) (by decide +kernel), ?_⟩
  exact hnone.2.2.2 (by decide +kernel) (List.isEmpty_iff.1 (by decide +kernel))

end Polling

end Vigil
