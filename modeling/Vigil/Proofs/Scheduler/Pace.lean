import Vigil.Item.Validation
import Vigil.Proofs.Scheduler.Tick
import Vigil.Proofs.Time.Instant

/-!
# Due times that are moved on

A tick moves an item on that is due by its horizon. The new due time keeps an interval's
distance to the old one and to the tick, and so the ticks that move an item on one after another
keep their distance too, but for the lookahead.
-/

namespace Vigil

/-! ### Spans -/

namespace Timing

theorem le_of_horizon? {timing : Timing} {now horizon : Time}
    (h : timing.horizon? now = some horizon) : now ≤ horizon :=
  Time.le_of_add?_of_nonneg timing.lookaheadSpan_bounds.1 (timing.horizon?_eq now ▸ h)

end Timing

/-- The nanoseconds between two runs. -/
def Settings.intervalNanos (s : Settings) : Int := (s.intervalSeconds.toNat * nanosPerSecond : Nat)

theorem Validation.interval_of_checkInterval {n : UInt64} (h : checkInterval n = .ok ()) :
    10 ≤ n.toNat ∧ n.toNat ≤ 86400 := by
  unfold checkInterval at h
  split at h
  · cases h
  · next hmin =>
    split at h
    · cases h
    · next hmax =>
      exact ⟨UInt64.le_iff_toNat_le.1 (UInt64.not_lt.1 hmin),
        UInt64.le_iff_toNat_le.1 (UInt64.not_lt.1 hmax)⟩

/-- What is at least one second is taken as it is given. -/
theorem Settings.max_one {n : UInt64} (h : 1 ≤ n.toNat) : max n 1 = n := by
  have hle : 1 ≤ n := UInt64.le_iff_toNat_le.2 h
  show (if n ≤ 1 then 1 else n) = n
  split
  · next hge => exact UInt64.le_antisymm hle hge
  · rfl

/-- A valid interval is taken as it is given. -/
theorem Settings.interval?_of_valid {s : Settings}
    (h : Validation.checkInterval s.intervalSeconds = .ok ()) :
    s.interval? = some ⟨s.intervalNanos⟩ ∧ (nanosPerSecond : Int) ≤ s.intervalNanos := by
  obtain ⟨hmin, hmax⟩ := Validation.interval_of_checkInterval h
  have hsigned : s.intervalSeconds.toInt64.toInt = s.intervalSeconds.toNat :=
    BitVec.toInt_eq_toNat_of_lt (by simp; omega)
  refine ⟨?_, ?_⟩
  · rw [interval?, max_one (by omega), hsigned, Span.ofSeconds?, Span.ofNanos?, if_pos]
    · rfl
    · simp only [Span.limit, nanosPerSecond]
      omega
  · simp only [intervalNanos, nanosPerSecond]
    omega

theorem natCast_succ_mul (k : Nat) (n : Int) : ((k + 1 : Nat) : Int) * n = k * n + n := by
  rw [Int.natCast_succ, Int.add_mul, Int.one_mul]

/-! ### Moving on -/

namespace Item

/-- A tick at `now` has moved an item on that was due at `due` by its horizon. -/
structure MovedOn (timing : Timing) (interval : Span) (due now : Time) (i : Item) : Prop where
  lastRun : i.progress.lastRun = some now
  due_le : ∃ horizon, timing.horizon? now = some horizon ∧ due ≤ horizon
  nextDue : (due.max now).add? interval = some i.progress.nextDue

theorem MovedOn.of_launchedAt? {timing : Timing} {interval : Span} {now horizon : Time}
    {old new : Item} (hinterval : old.settings.interval? = some interval)
    (hhorizon : timing.horizon? now = some horizon) (hdue : old.isDue horizon = true)
    (hnew : old.launchedAt? now = some new) :
    new.MovedOn timing interval old.progress.nextDue now := by
  obtain ⟨due, hmoved, rfl⟩ := Option.map_eq_some_iff.1 hnew
  refine ⟨rfl, ⟨horizon, hhorizon, (isDue_iff.1 hdue).2⟩, ?_⟩
  rw [← nextDueAfter?_eq, nextDueAfter?, hinterval] at hmoved
  exact hmoved

/-- When an item that was due at `due` is due, after it has been moved on several times. -/
def dueAfter (due : Time) (is : List Item) : Time := is.foldl (fun _ i => i.progress.nextDue) due

theorem dueAfter_concat (due : Time) (is : List Item) (i : Item) :
    dueAfter due (is ++ [i]) = i.progress.nextDue := by
  rw [dueAfter, List.foldl_append]
  rfl

/-- Ticks have moved an item on, one after another, from `due` on. -/
def Paced (timing : Timing) (interval : Span) (ticked : Time → Prop) : Time → List Item → Prop
  | _, [] => True
  | due, i :: is =>
    (∃ now, ticked now ∧ i.MovedOn timing interval due now) ∧
      Paced timing interval ticked i.progress.nextDue is

section

variable {timing : Timing} {interval : Span} {ticked : Time → Prop}
variable {due now t u : Time} {i : Item} {is js : List Item}

theorem paced_concat : Paced timing interval ticked due (is ++ [i]) ↔
    Paced timing interval ticked due is ∧
      ∃ now, ticked now ∧ i.MovedOn timing interval (dueAfter due is) now := by
  induction is generalizing due with
  | nil => simp [Paced, dueAfter]
  | cons j is ih => rw [List.cons_append, Paced, Paced, ih, and_assoc]; rfl

/-! ### Distances -/

variable (hinterval : nanosPerSecond ≤ interval.nanos)

include hinterval

/-- The new due time lies one interval after the tick, and beyond it by the lookahead at most.
Outside of leap seconds it lies one interval after the old one too. -/
theorem MovedOn.bounds (h : i.MovedOn timing interval due now) (hdue : due.IsPlain) :
    i.progress.nextDue.IsPlain ∧
      now.instant + interval.nanos ≤ i.progress.nextDue.instant ∧
      i.progress.nextDue.instant ≤ now.instant + timing.lookahead.nanos + interval.nanos ∧
      (now.IsPlain → due.instant ≤ now.instant + timing.lookahead.nanos ∧
        due.instant + interval.nanos ≤ i.progress.nextDue.instant) := by
  obtain ⟨horizon, hhorizon, hle⟩ := h.due_le
  rw [timing.horizon?_eq] at hhorizon
  obtain ⟨hnonneg, hlookahead⟩ := timing.lookaheadSpan_bounds
  obtain ⟨hplain, hlower, hupper, hkeeps⟩ :=
    Time.bounds_of_max_add? hdue hnonneg hinterval hhorizon hle h.nextDue
  refine ⟨hplain, hlower, by omega, fun hnow => ?_⟩
  obtain ⟨hearly, hlate⟩ := hkeeps hnow
  exact ⟨by omega, hlate⟩

theorem Paced.isPlain (h : Paced timing interval ticked due is) (hdue : due.IsPlain) :
    (dueAfter due is).IsPlain := by
  induction is generalizing due with
  | nil => exact hdue
  | cons i is ih =>
      obtain ⟨⟨now, -, hmoved⟩, hrest⟩ := h
      exact ih hrest (hmoved.bounds hinterval hdue).1

/-- The due time of an item lies one interval after the tick that has moved it on last, and
beyond it by the lookahead at most. -/
theorem Paced.bounds_last (h : Paced timing interval ticked due (is ++ [i])) (hdue : due.IsPlain)
    (ht : i.progress.lastRun = some t) :
    t.instant + interval.nanos ≤ i.progress.nextDue.instant ∧
      i.progress.nextDue.instant ≤ t.instant + timing.lookahead.nanos + interval.nanos := by
  obtain ⟨hbefore, now, -, hmoved⟩ := paced_concat.1 h
  obtain ⟨-, hlower, hupper, -⟩ := hmoved.bounds hinterval (hbefore.isPlain hinterval hdue)
  obtain rfl : now = t := Option.some.inj (hmoved.lastRun.symm.trans ht)
  exact ⟨hlower, hupper⟩

variable (hticked : ∀ now, ticked now → now.IsPlain)

include hticked

/-- One of the ticks that have moved an item on, after `k` others of them, comes `k` intervals
after the item was due first, or earlier by the lookahead at most. -/
theorem Paced.le_of_sublist (h : Paced timing interval ticked due is) (hdue : due.IsPlain)
    (hjs : js.Sublist is) {k : Nat} (hk : js[k]? = some i) (hu : i.progress.lastRun = some u) :
    due.instant + k * interval.nanos ≤ u.instant + timing.lookahead.nanos := by
  induction hjs generalizing due k with
  | slnil => cases hk
  | @cons js is j hjs ih =>
      obtain ⟨⟨now, hnow, hmoved⟩, hrest⟩ := h
      obtain ⟨hplain, -, -, hkeeps⟩ := hmoved.bounds hinterval hdue
      have hlater := ih hrest hplain hk
      have hmore := (hkeeps (hticked now hnow)).2
      simp only [nanosPerSecond] at hinterval
      omega
  | @cons_cons js is j hjs ih =>
      obtain ⟨⟨now, hnow, hmoved⟩, hrest⟩ := h
      obtain ⟨hplain, -, -, hkeeps⟩ := hmoved.bounds hinterval hdue
      obtain ⟨hearly, hmore⟩ := hkeeps (hticked now hnow)
      cases k with
      | zero =>
          cases hk
          obtain rfl : now = u := Option.some.inj (hmoved.lastRun.symm.trans hu)
          simpa using hearly
      | succ k =>
          have hlater := ih hrest hplain hk
          rw [natCast_succ_mul]
          omega

/-- Between two of the ticks that have moved an item on lie as many intervals as there are steps
from one to the other, or less by the lookahead at most. -/
theorem Paced.spaced (h : Paced timing interval ticked due is) (hdue : due.IsPlain)
    (hjs : js.Sublist is) {j k : Nat} {a b : Item} (ha : js[j]? = some a) (hb : js[k]? = some b)
    (ht : a.progress.lastRun = some t) (hu : b.progress.lastRun = some u) (hjk : j ≤ k) :
    ((k - j : Nat) : Int) * interval.nanos ≤ u.instant - t.instant + timing.lookahead.nanos := by
  induction hjs generalizing due j k with
  | slnil => cases ha
  | cons i hjs ih =>
      obtain ⟨⟨now, -, hmoved⟩, hrest⟩ := h
      exact ih hrest (hmoved.bounds hinterval hdue).1 ha hb hjk
  | @cons_cons js is i hjs ih =>
      obtain ⟨⟨now, -, hmoved⟩, hrest⟩ := h
      obtain ⟨hplain, hlower, -, -⟩ := hmoved.bounds hinterval hdue
      match j, k with
      | 0, 0 =>
          cases ha.symm.trans hb
          cases ht.symm.trans hu
          simp
      | 0, k + 1 =>
          cases ha
          obtain rfl : now = t := Option.some.inj (hmoved.lastRun.symm.trans ht)
          have hlater := hrest.le_of_sublist hinterval hticked hplain hjs hb hu
          rw [Nat.sub_zero, natCast_succ_mul]
          omega
      | j + 1, k + 1 =>
          rw [Nat.add_sub_add_right]
          exact ih hrest hplain ha hb (Nat.le_of_succ_le_succ hjk)

end

end Item

end Vigil
