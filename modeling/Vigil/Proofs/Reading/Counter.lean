import Mathlib.Algebra.Order.Ring.Rat
import Mathlib.Algebra.BigOperators.Group.List.Basic
import Mathlib.Tactic.Linarith
import Vigil.Reading.Counter

/-!
# Counters that share the readings

The counters of an item keep their values and clocks side by side in its readings. In
exact numbers every call is told what its own counter did since the call before on the
same key, whatever the calls on other keys in between (`counted_of_apart`).
-/

namespace Vigil

/-- Exact numbers, however they are read from text. None is rounded and none is infinite. -/
instance [ReadableNumber ℚ] : Quantity ℚ where
  minus := (· - ·)
  quotient := (· / ·)
  below x y := x < y
  zero := 0
  isFinite _ := true
  secondsOfMillis m := m / 1000

namespace Counter

theorem clockKey_ne (key : String) : clockKey key ≠ key := by
  intro h
  have hlength := congrArg String.length h
  simp [clockKey] at hlength

theorem clockKey_inj {key other : String} : clockKey key = clockKey other ↔ key = other := by
  simp [clockKey]

/-- The keys of a counter and its clock are not those of another counter. -/
structure Apart (key other : String) : Prop where
  ne : key ≠ other
  ne_clock : key ≠ clockKey other
  clock_ne : clockKey key ≠ other

/-- One value of the counter under a key, with the clock at which it was read. -/
structure Call where
  key : String
  current : ℚ
  clock : Clock ℚ

/-- The calls on a key. -/
def callsOn (key : String) (calls : List Call) : List Call := calls.filter (·.key = key)

/-- The calls on a key, with their samples. -/
def toldOn (key : String) (told : List (Call × Sample ℚ)) : List (Call × Sample ℚ) :=
  told.filter (·.1.key = key)

section On

variable {key : String} {c : Call} {s : Sample ℚ}

theorem callsOn_cons_of_eq (h : c.key = key) (calls : List Call) :
    callsOn key (c :: calls) = c :: callsOn key calls :=
  List.filter_cons_of_pos (decide_eq_true h)

theorem callsOn_cons_of_ne (h : c.key ≠ key) (calls : List Call) :
    callsOn key (c :: calls) = callsOn key calls :=
  List.filter_cons_of_neg (by simpa using h)

theorem toldOn_cons_of_eq (h : c.key = key) (told : List (Call × Sample ℚ)) :
    toldOn key ((c, s) :: told) = (c, s) :: toldOn key told :=
  List.filter_cons_of_pos (decide_eq_true h)

theorem toldOn_cons_of_ne (h : c.key ≠ key) (told : List (Call × Sample ℚ)) :
    toldOn key ((c, s) :: told) = toldOn key told :=
  List.filter_cons_of_neg (by simpa using h)

theorem apart_of_mem {calls : List Call}
    (hapart : ∀ c ∈ calls, ∀ other ∈ calls, c.key ≠ clockKey other.key) (hc : c ∈ calls) :
    ∀ other ∈ calls, other.key ≠ c.key → Apart c.key other.key :=
  fun other hother hne =>
    ⟨hne.symm, hapart c hc other hother, (hapart other hother c hc).symm⟩

end On

section Exact

variable [ReadableNumber ℚ]

namespace Call

/-- The clock of a call in seconds. A wall clock is read to the millisecond. -/
def seconds (c : Call) : ℚ :=
  match c.clock with
  | .wall t => (t.second * 1000 + (t.nanos / 1000000 : Nat) : Int) / 1000
  | .uptime s => s

theorem seconds_clock (c : Call) : Counter.seconds c.clock = c.seconds := by
  rcases c with ⟨key, current, t | s⟩ <;> rfl

def record (m : Readings ℚ) (c : Call) : Sample ℚ × Readings ℚ :=
  Counter.record m c.key c.current c.clock

/-- The counter went back, or the clock of its device did. -/
def StartsAgain (previous c : Call) : Prop :=
  c.current < previous.current ∨ ∃ s, c.clock = .uptime s ∧ s < previous.seconds

theorem restarted_iff {previous c : Call} :
    restarted c.clock (some (c.seconds - previous.seconds)) = true ↔
      ∃ s, c.clock = .uptime s ∧ s < previous.seconds := by
  rcases c with ⟨key, current, t | s⟩
  · simp [restarted]
  · have hseconds : seconds ⟨key, current, .uptime s⟩ = s := rfl
    simp [restarted, Quantity.below, Quantity.zero, hseconds]

instance (previous c : Call) : Decidable (StartsAgain previous c) :=
  decidable_of_iff (c.current < previous.current ∨
    restarted c.clock (some (c.seconds - previous.seconds)) = true) (or_congr_right restarted_iff)

/-- What a call says after the previous call on the same key. -/
def sample : Option Call → Call → Sample ℚ
  | none, _ => .baseline
  | some previous, c =>
    if StartsAgain previous c then .reset
    else
      let delta := c.current - previous.current
      let elapsed := c.seconds - previous.seconds
      .advanced delta (if 0 < elapsed then some (delta / elapsed) else none)

theorem delta_sample {previous c : Call} (h : c.sample (some previous) ≠ .reset) :
    (c.sample (some previous)).delta = c.current - previous.current := by
  simp only [sample] at h ⊢
  split at h
  · exact absurd rfl h
  · rename_i hgoes
    rw [if_neg hgoes]
    rfl

theorem delta_sample_nonneg (previous? : Option Call) (c : Call) :
    0 ≤ (c.sample previous?).delta := by
  cases previous? with
  | none => exact le_rfl
  | some previous =>
      simp only [sample]
      split
      · exact le_rfl
      · rename_i hgoes
        exact sub_nonneg.2 (not_lt.1 fun hlt => hgoes (.inl hlt))

end Call

theorem sample_some (previous current elapsed : ℚ) :
    sample (some previous) current (some elapsed) =
      if current < previous then .reset
      else .advanced (current - previous)
        (if 0 < elapsed then some ((current - previous) / elapsed) else none) := by
  simp [sample, rate?, Quantity.below, Quantity.zero, Quantity.minus, Quantity.isFinite,
    Quantity.quotient]

theorem getElem?_record (m : Readings ℚ) (c : Call) (key : String) :
    (c.record m).2[key]? =
      if clockKey c.key = key then some (.number c.seconds)
      else if c.key = key then some (.number c.current) else m[key]? := by
  have heq (k : String) : compare k key = .eq ↔ k = key := Std.LawfulEqCmp.compare_eq_iff_eq
  simp only [Call.record, record, Readings.setNumber, Std.ExtTreeMap.getElem?_insert, heq,
    c.seconds_clock]

/-- The readings after some calls. -/
def kept (m : Readings ℚ) (calls : List Call) : Readings ℚ :=
  calls.foldl (fun m c => (c.record m).2) m

/-- The calls with the samples they return. -/
def told (m : Readings ℚ) : List Call → List (Call × Sample ℚ)
  | [] => []
  | c :: calls => (c, (c.record m).1) :: told (c.record m).2 calls

theorem map_fst_told (m : Readings ℚ) (calls : List Call) :
    (told m calls).map Prod.fst = calls := by
  induction calls generalizing m with
  | nil => rfl
  | cons c calls ih => rw [told, List.map_cons, ih]

/-- What the calls on one key say, each after the one before. -/
def tale (previous? : Option Call) : List Call → List (Call × Sample ℚ)
  | [] => []
  | c :: calls => (c, c.sample previous?) :: tale (some c) calls

/-- The readings hold what the last call on a key left there. -/
structure Remembers (m : Readings ℚ) (key : String) (last? : Option Call) : Prop where
  current : m[key]? = last?.map fun c => .number c.current
  clock : m[clockKey key]? = last?.map fun c => .number c.seconds

namespace Remembers

variable {m : Readings ℚ} {key : String} {last? : Option Call}

theorem sample_record {c : Call} (h : Remembers m c.key last?) :
    (c.record m).1 = c.sample last? := by
  have hcurrent : m.number? c.key = last?.map Call.current := by
    rw [Readings.number?, h.current]
    cases last? <;> rfl
  have hclock : m.number? (clockKey c.key) = last?.map Call.seconds := by
    rw [Readings.number?, h.clock]
    cases last? <;> rfl
  simp only [Call.record, record, hcurrent, hclock, c.seconds_clock]
  cases last? with
  | none => rfl
  | some previous =>
      have helapsed : ((some previous).map Call.seconds).map (Quantity.minus c.seconds ·)
          = some (c.seconds - previous.seconds) := rfl
      rw [helapsed, Option.map_some, sample_some, Call.sample]
      by_cases hback : c.current < previous.current
      · rw [if_pos hback, if_pos (.inl hback)]
      · rw [if_neg hback]
        by_cases hrestarted : restarted c.clock (some (c.seconds - previous.seconds)) = true
        · have hstarts : Call.StartsAgain previous c := .inr (Call.restarted_iff.1 hrestarted)
          rw [if_pos hstarts]
          exact if_pos hrestarted
        · have hgoes : ¬ Call.StartsAgain previous c := fun h =>
            h.elim hback fun h => hrestarted (Call.restarted_iff.2 h)
          rw [if_neg hgoes]
          exact if_neg hrestarted

theorem record_self (c : Call) : Remembers (c.record m).2 c.key (some c) where
  current := by rw [getElem?_record, if_neg (clockKey_ne _), if_pos rfl]; rfl
  clock := by rw [getElem?_record, if_pos rfl]; rfl

theorem record_of_apart {c : Call} (h : Remembers m key last?) (hapart : Apart key c.key) :
    Remembers (c.record m).2 key last? where
  current := by
    rw [getElem?_record, if_neg hapart.ne_clock.symm, if_neg hapart.ne.symm, h.current]
  clock := by
    have hne : clockKey c.key ≠ clockKey key := fun heq => hapart.ne (clockKey_inj.1 heq).symm
    rw [getElem?_record, if_neg hne, if_neg hapart.clock_ne.symm, h.clock]

/-- A call leaves its own values under its key and nothing under keys apart from it. -/
theorem record {c : Call} (h : Remembers m key last?) (hapart : c.key ≠ key → Apart key c.key) :
    Remembers (c.record m).2 key (if c.key = key then some c else last?) := by
  split
  · rename_i heq
    exact heq ▸ record_self c
  · rename_i hne
    exact h.record_of_apart (hapart hne)

theorem kept {calls : List Call} (h : Remembers m key last?)
    (hapart : ∀ c ∈ calls, c.key ≠ key → Apart key c.key) :
    Remembers (kept m calls) key ((callsOn key calls).getLast?.or last?) := by
  induction calls generalizing m last? with
  | nil => exact h
  | cons c calls ih =>
      obtain ⟨hc, hcalls⟩ := List.forall_mem_cons.1 hapart
      have hkept := ih (h.record hc) hcalls
      by_cases heq : c.key = key
      · rw [if_pos heq] at hkept
        rwa [callsOn_cons_of_eq heq, List.getLast?_cons, Option.some_or, ← Option.or_some]
      · rw [if_neg heq] at hkept
        rwa [callsOn_cons_of_ne heq]

theorem toldOn {calls : List Call} (h : Remembers m key last?)
    (hapart : ∀ c ∈ calls, c.key ≠ key → Apart key c.key) :
    toldOn key (told m calls) = tale last? (callsOn key calls) := by
  induction calls generalizing m last? with
  | nil => rfl
  | cons c calls ih =>
      obtain ⟨hc, hcalls⟩ := List.forall_mem_cons.1 hapart
      have htold := ih (h.record hc) hcalls
      by_cases heq : c.key = key
      · rw [if_pos heq] at htold
        subst heq
        rw [callsOn_cons_of_eq rfl, told, toldOn_cons_of_eq rfl, htold, tale, h.sample_record]
      · rw [if_neg heq] at htold
        rw [callsOn_cons_of_ne heq, told, toldOn_cons_of_ne heq, htold]

end Remembers

section Tale

variable {first : Call} {previous? : Option Call} {calls : List Call}
  {before stretch after : List (Call × Sample ℚ)}

/-- What is left of a tale goes on from the call told last. -/
theorem exists_tale_of_append {s : Sample ℚ}
    (h : tale previous? calls = before ++ (first, s) :: after) :
    ∃ rest, after = tale (some first) rest := by
  induction before generalizing previous? calls with
  | nil =>
      cases calls with
      | nil => cases h
      | cons c calls =>
          obtain ⟨hfirst, hafter⟩ := List.cons.inj h
          cases hfirst
          exact ⟨calls, hafter.symm⟩
  | cons r before ih =>
      cases calls with
      | nil => cases h
      | cons c calls => exact ih (List.cons.inj h).2

theorem sum_delta_tale (h : tale (some first) calls = stretch ++ after)
    (hgoes : ∀ r ∈ stretch, r.2 ≠ .reset) :
    (stretch.map (·.2.delta)).sum =
      ((stretch.map Prod.fst).getLastD first).current - first.current := by
  induction stretch generalizing first calls with
  | nil => exact (sub_self _).symm
  | cons r stretch ih =>
      cases calls with
      | nil => cases h
      | cons c calls =>
          obtain ⟨hr, htail⟩ := List.cons.inj h
          subst hr
          obtain ⟨hc, hstretch⟩ := List.forall_mem_cons.1 hgoes
          have hrest := ih htail hstretch
          have hdelta := Call.delta_sample hc
          rw [List.map_cons, List.sum_cons, List.map_cons, List.getLastD_cons, hrest]
          linarith

theorem delta_nonneg_of_mem_tale {r : Call × Sample ℚ} (hr : r ∈ tale previous? calls) :
    0 ≤ r.2.delta := by
  induction calls generalizing previous? with
  | nil => cases hr
  | cons c calls ih =>
      rcases List.mem_cons.1 hr with rfl | hr
      · exact Call.delta_sample_nonneg previous? c
      · exact ih hr

end Tale

theorem getElem?_kept_of_ne {m : Readings ℚ} {calls : List Call} {key : String}
    (h : ∀ c ∈ calls, c.key ≠ key ∧ clockKey c.key ≠ key) : (kept m calls)[key]? = m[key]? := by
  induction calls generalizing m with
  | nil => rfl
  | cons c calls ih =>
      obtain ⟨⟨hkey, hclock⟩, hcalls⟩ := List.forall_mem_cons.1 h
      have hrest := ih (m := (c.record m).2) hcalls
      rwa [getElem?_record, if_neg hclock, if_neg hkey] at hrest

/-- What calls are told and what they leave in the readings. -/
structure Counted (m : Readings ℚ) (calls : List Call) : Prop where
  /-- The samples on a key are those of its own calls, each compared with the one before. -/
  told_key : ∀ key, toldOn key (told m calls) = tale none (callsOn key calls)
  delta_nonneg : ∀ r ∈ told m calls, 0 ≤ r.2.delta
  unrated : ∀ r ∈ told m calls, r.2 = .baseline ∨ r.2 = .reset → r.2.delta = 0 ∧ r.2.rate? = none
  /-- A counter that does not start again grows from the first of some calls to the last. -/
  sum_delta : ∀ key before first s stretch after,
    toldOn key (told m calls) = before ++ (first, s) :: (stretch ++ after) →
      (∀ r ∈ stretch, r.2 ≠ .reset) →
        (stretch.map (·.2.delta)).sum =
          ((stretch.map Prod.fst).getLastD first).current - first.current
  last : ∀ key c, (callsOn key calls).getLast? = some c →
    (kept m calls)[key]? = some (.number c.current) ∧
      (kept m calls)[key ++ ".clock"]? = some (.number c.seconds)
  rest : ∀ key, (∀ c ∈ calls, c.key ≠ key ∧ c.key ++ ".clock" ≠ key) →
    (kept m calls)[key]? = m[key]?

section Run

variable {m : Readings ℚ} {calls : List Call}
  (hfresh : ∀ c ∈ calls, m[c.key]? = none ∧ m[clockKey c.key]? = none)

omit [ReadableNumber ℚ] in
include hfresh in
theorem remembers_none {c : Call} (hc : c ∈ calls) : Remembers m c.key none :=
  ⟨(hfresh c hc).1, (hfresh c hc).2⟩

include hfresh in
theorem toldOn_told (hapart : ∀ c ∈ calls, ∀ other ∈ calls, c.key ≠ clockKey other.key)
    (key : String) : toldOn key (told m calls) = tale none (callsOn key calls) := by
  by_cases hkey : ∃ c ∈ calls, c.key = key
  · obtain ⟨c, hc, rfl⟩ := hkey
    exact (remembers_none hfresh hc).toldOn (apart_of_mem hapart hc)
  · have hne : ∀ c ∈ calls, ¬ decide (c.key = key) = true := fun c hc heq =>
      hkey ⟨c, hc, of_decide_eq_true heq⟩
    have hcalls : callsOn key calls = [] := List.filter_eq_nil_iff.2 hne
    have htold : toldOn key (told m calls) = [] := List.filter_eq_nil_iff.2 fun r hr =>
      hne r.1 (map_fst_told m calls ▸ List.mem_map_of_mem hr)
    rw [hcalls, htold, tale]

end Run

theorem counted_of_apart {m : Readings ℚ} {calls : List Call}
    (hapart : ∀ c ∈ calls, ∀ other ∈ calls, c.key ≠ other.key ++ ".clock")
    (hfresh : ∀ c ∈ calls, m[c.key]? = none ∧ m[c.key ++ ".clock"]? = none) :
    Counted m calls where
  told_key := toldOn_told hfresh hapart
  delta_nonneg r hr := by
    have hmem : r ∈ toldOn r.1.key (told m calls) := List.mem_filter.2 ⟨hr, decide_eq_true rfl⟩
    rw [toldOn_told hfresh hapart] at hmem
    exact delta_nonneg_of_mem_tale hmem
  unrated r _ h := by
    rcases h with h | h <;> rw [h] <;> exact ⟨rfl, rfl⟩
  sum_delta key before first s stretch after h hgoes := by
    rw [toldOn_told hfresh hapart] at h
    obtain ⟨rest, hrest⟩ := exists_tale_of_append h
    exact sum_delta_tale hrest.symm hgoes
  last key c hlast := by
    have hmem : c ∈ callsOn key calls := List.mem_of_getLast? hlast
    obtain ⟨hc, hkey⟩ := List.mem_filter.1 hmem
    have heq : c.key = key := of_decide_eq_true hkey
    subst heq
    have hkept := (remembers_none hfresh hc).kept (apart_of_mem hapart hc)
    rw [hlast] at hkept
    exact ⟨hkept.current, hkept.clock⟩
  rest key h := getElem?_kept_of_ne h

end Exact

namespace Sample

/-- One counter is read at a wall clock that is once set back, another one at an uptime. -/
def calls : List Call :=
  let wall (second : Int) (nanos : Nat) : Clock ℚ :=
    .wall ((Time.ofParts? second nanos).getD .epoch)
  [⟨"in", 5, wall 10 0⟩, ⟨"out", 7, .uptime 10⟩, ⟨"in", 9, wall 12 500000000⟩,
    ⟨"out", 8, .uptime 1⟩, ⟨"in", 10, wall 12 0⟩, ⟨"in", 3, wall 14 0⟩]

end Sample

/-- The first counter starts again as its reading falls, the second one as its uptime does. -/
theorem counted_of_apart_sample :
    let _ : ReadableNumber ℚ := ⟨fun s => (String.ofList s).toNat?.map Nat.cast⟩
    let m : Readings ℚ := Readings.empty.setError "no answer"
    (∀ c ∈ Sample.calls, ∀ other ∈ Sample.calls, c.key ≠ other.key ++ ".clock") ∧
      (∀ c ∈ Sample.calls, m[c.key]? = none ∧ m[c.key ++ ".clock"]? = none) ∧
      Counted m Sample.calls ∧
      (toldOn "in" (told m Sample.calls)).map Prod.snd =
        [.baseline, .advanced 4 (some (8 / 5)), .advanced 1 none, .reset] ∧
      (toldOn "out" (told m Sample.calls)).map Prod.snd = [.baseline, .reset] ∧
      (kept m Sample.calls)["in.clock"]? = some (.number 14) := by
  intro _ m
  have hapart : ∀ c ∈ Sample.calls, ∀ other ∈ Sample.calls, c.key ≠ other.key ++ ".clock" := by
    decide
  have hfresh : ∀ c ∈ Sample.calls, m[c.key]? = none ∧ m[c.key ++ ".clock"]? = none := by
    simp [m, Sample.calls, Readings.setError, Readings.setText, Readings.empty, Readings.errorKey,
      Std.ExtTreeMap.getElem?_insert]
  have hcounted := counted_of_apart hapart hfresh
  refine ⟨hapart, hfresh, hcounted, ?_, ?_, ?_⟩
  · rw [hcounted.told_key]
    simp [callsOn, Sample.calls, tale, Call.sample, Call.StartsAgain, Call.seconds, Time.ofParts?]
    norm_num
  · rw [hcounted.told_key]
    simp [callsOn, Sample.calls, tale, Call.sample, Call.StartsAgain, Call.seconds]
  · have hlast := (hcounted.last "in" ⟨"in", 3, .wall ((Time.ofParts? 14 0).getD .epoch)⟩ rfl).2
    norm_num [Call.seconds, Time.ofParts?] at hlast
    exact hlast

end Counter

end Vigil
