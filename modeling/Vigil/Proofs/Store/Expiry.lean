import Mathlib.Algebra.Order.Ring.Nat
import Vigil.Proofs.Store.Newest
import Vigil.Store.Retention

/-!
# Entries that expire

A cleanup drops the records and the events before two cut-offs, which lie a number of days before
its time. Both logs of the store in memory are treated alike (`Log`): what is left of one after
any calls are the entries that were in it or were appended, in this order, but for those before
the cut-off of a cleanup that came after them. What the cleanups have counted and what is left are
together all that there was (`keeps_unexpired`).
-/

namespace Vigil

/-! ### Cut-offs -/

namespace Time

/-- Not later, whether the inside of a leap second counts as the second before or as the second
after. Only of two times less than a second apart, one of which is inside a leap second, can the
earlier one fail to precede the other. -/
structure Precedes (t u : Time) : Prop where
  instant_le : t.instant ≤ u.instant
  laterInstant_le : t.laterInstant ≤ u.laterInstant

instance (t u : Time) : Decidable (t.Precedes u) :=
  decidable_of_iff (t.instant ≤ u.instant ∧ t.laterInstant ≤ u.laterInstant)
    ⟨fun h => ⟨h.1, h.2⟩, fun h => ⟨h.1, h.2⟩⟩

variable {t u : Time}

theorem Precedes.le (h : t.Precedes u) : t ≤ u := by
  obtain ⟨hinstant, hlater⟩ := h
  have ht := t.nanos_lt
  have hu := u.nanos_lt
  rw [le_def]
  simp only [instant, laterInstant, nanosPerSecond] at *
  omega

/-- Of two times that are both inside of a leap second or both outside of one, the earlier precedes
the later. -/
theorem precedes_iff_le (hplain : t.IsPlain ↔ u.IsPlain) : t.Precedes u ↔ t ≤ u := by
  refine ⟨Precedes.le, fun h => ?_⟩
  have ht := t.nanos_lt
  have hu := u.nanos_lt
  rw [le_def] at h
  simp only [IsPlain, nanosPerSecond] at *
  constructor <;> simp only [instant, laterInstant, nanosPerSecond] <;> omega

/-- The nanoseconds from the start of 1970 to a time, with all of a leap second at the end of the
second before. -/
def cappedInstant (t : Time) : Int := t.second * nanosPerSecond + min t.nanos (nanosPerSecond - 1)

theorem le_iff_le_cappedInstant (ht : t.IsPlain) : t ≤ u ↔ t.instant ≤ u.cappedInstant := by
  rw [le_def]
  simp only [instant, cappedInstant, IsPlain, nanosPerSecond] at *
  omega

/-- Whether a time lies no more than a number of days before `now`, each of 86400 seconds. For
fewer days than none it lies at least as many after `now`. A leap second is left back into the
second after it, and forward from the second before. -/
def isWithin (t : Time) (days : Int) (now : Time) : Bool :=
  if days = 0 then now ≤ t
  else
    (if 0 < days then now.laterInstant else now.instant) - days * 86400 * nanosPerSecond ≤
      t.cappedInstant

/-- What lies within some days before a time lies within as many before an earlier one. -/
theorem isWithin_earlier {days : Int} {now earlier : Time} (hbefore : earlier.Precedes now)
    (h : t.isWithin days now = true) : t.isWithin days earlier = true := by
  have hinstant := hbefore.instant_le
  have hlater := hbefore.laterInstant_le
  unfold isWithin at h ⊢
  by_cases hdays : days = 0
  · rw [if_pos hdays, decide_eq_true_iff] at h ⊢
    have hle := hbefore.le
    rw [le_def] at *
    omega
  · rw [if_neg hdays, decide_eq_true_iff] at h ⊢
    refine Int.le_trans ?_ h
    split <;> omega

end Time

namespace Retention

variable {days : Int} {now cutoff : Time}

/-- A cut-off lies whole days before a time, or after it if there are fewer than none. -/
theorem of_cutoff? (h : cutoff? days now = some cutoff) :
    days = 0 ∧ cutoff = now ∨
      0 < days ∧ cutoff.IsPlain ∧
        cutoff.instant = now.laterInstant - days * 86400 * nanosPerSecond ∨
      days < 0 ∧ cutoff.IsPlain ∧
        cutoff.instant = now.instant - days * 86400 * nanosPerSecond := by
  obtain ⟨s, hs, hadd⟩ := Option.bind_eq_some_iff.1 h
  have hnanos : s.nanos = days * 86400 * nanosPerSecond := by
    unfold Span.ofDays? Span.ofSeconds? Span.ofNanos? at hs
    split at hs
    · cases hs
      rfl
    · cases hs
  have hneg : (-s).nanos = -s.nanos := rfl
  rcases Int.lt_trichotomy days 0 with hdays | rfl | hdays
  · obtain ⟨hplain, heq⟩ := Time.of_add?_of_le (by simp only [nanosPerSecond] at *; omega) hadd
    exact .inr (.inr ⟨hdays, hplain, by omega⟩)
  · refine .inl ⟨rfl, ?_⟩
    rw [Time.add?_of_nanos_eq_zero (by omega)] at hadd
    exact (Option.some.inj hadd).symm
  · obtain ⟨hplain, heq⟩ := Time.of_add?_of_le_neg (by simp only [nanosPerSecond] at *; omega) hadd
    exact .inr (.inl ⟨hdays, hplain, by omega⟩)

/-- At the cut-off or after it is what lies within the days. -/
theorem le_iff_isWithin (h : cutoff? days now = some cutoff) (t : Time) :
    cutoff ≤ t ↔ t.isWithin days now = true := by
  rw [Time.isWithin]
  rcases of_cutoff? h with ⟨rfl, rfl⟩ | ⟨hdays, hplain, heq⟩ | ⟨hdays, hplain, heq⟩
  · rw [if_pos rfl, decide_eq_true_iff]
  · rw [if_neg (by omega), if_pos hdays, decide_eq_true_iff, ← heq]
    exact Time.le_iff_le_cappedInstant hplain
  · rw [if_neg (by omega), if_neg (by omega), decide_eq_true_iff, ← heq]
    exact Time.le_iff_le_cappedInstant hplain

theorem filter_isWithin {α : Type} (h : cutoff? days now = some cutoff) (time : α → Time)
    (xs : List α) :
    (xs.filter fun x => decide (cutoff ≤ time x)) =
      xs.filter fun x => (time x).isWithin days now :=
  List.filter_congr fun x _ =>
    Bool.eq_iff_iff.2 (decide_eq_true_iff.trans (le_iff_isWithin h (time x)))

/-- The cut-offs of a policy are times exactly if both are. -/
theorem of_cutoffs? {policy : Retention} {cutoffs : Time × Time}
    (h : policy.cutoffs? now = some cutoffs) :
    cutoff? policy.historyDays now = some cutoffs.1 ∧
      cutoff? policy.eventDays now = some cutoffs.2 := by
  obtain ⟨history, hhistory, h⟩ := Option.bind_eq_some_iff.1 h
  obtain ⟨event, hevent, h⟩ := Option.bind_eq_some_iff.1 h
  cases h
  exact ⟨hhistory, hevent⟩

end Retention

namespace Expiry

/-! ### Calls -/

/-- An entry is appended, or what is too old for a policy at a time is dropped. The cut-offs are
in the range of the times. -/
inductive Call where
  | append (entry : Entry)
  | cleanup (policy : Retention) (now : Time) (inRange : (policy.cutoffs? now).isSome)

namespace Call

/-- A call, with the number of entries that it drops. -/
def ask : Call → Access MemoryStore Nat
  | append entry => (fun _ => 0) <$> entry.op.ask
  | cleanup policy now inRange =>
      (policy.cleanup? now).get (by rwa [Retention.cleanup?, Option.isSome_map])

def entry? : Call → Option Entry
  | append entry => some entry
  | cleanup .. => none

end Call

/-! ### The two logs -/

/-- One of the two logs of a store: what it holds, which entries it takes, and for how many days
it keeps them. -/
structure Log (α : Type) where
  held : MemoryStore → List α
  own? : Entry → Option α
  time : α → Time
  days : Retention → Int

namespace Log

def records : Log HistoryRecord where
  held := MemoryStore.records
  own? := Entry.record?
  time := HistoryRecord.time
  days := Retention.historyDays

def events : Log Event where
  held := MemoryStore.eventLog
  own? := Entry.event?
  time := Event.time
  days := Retention.eventDays

variable {α : Type} (log : Log α)

/-- A cleanup spares what is no older than the days of the log. -/
def spares (x : α) : Call → Bool
  | .append _ => true
  | .cleanup policy now _ => (log.time x).isWithin (log.days policy) now

/-- What a call adds to the log. -/
def added (call : Call) : List α := (call.entry?.bind log.own?).toList

/-- What calls append to the log, each with the calls that come after it. -/
def arrivals : List Call → List (α × List Call)
  | [] => []
  | call :: calls => (log.added call).map (·, calls) ++ arrivals calls

/-- Of what a store holds before some calls and what they append to it, in this order, those that
every later call spares. -/
def left (s : MemoryStore) (calls : List Call) : List α :=
  (((log.held s).map (·, calls) ++ log.arrivals calls).filter
    fun (x, later) => later.all (log.spares x)).map Prod.fst

variable {s t : MemoryStore} {call : Call} {calls : List Call}

theorem left_nil (s : MemoryStore) : log.left s [] = log.held s := by
  simp only [left, arrivals, List.append_nil, List.filter_map, List.map_map]
  simp only [Function.comp_def, List.all_nil, List.filter_true, List.map_id']

/-- Any call may be carried out before the others are looked at. -/
theorem left_cons (h : log.held t = (log.held s).filter (log.spares · call) ++ log.added call) :
    log.left s (call :: calls) = log.left t calls := by
  simp only [left, arrivals, h, List.filter_append, List.map_append, List.append_assoc,
    List.filter_map, List.map_map, List.filter_filter]
  simp only [Function.comp_def, List.all_cons, Bool.and_comm]

theorem arrivals_eq_nil (happend : ∀ call ∈ calls, call.entry? = none) :
    log.arrivals calls = [] := by
  induction calls with
  | nil => rfl
  | cons call calls ih =>
      rw [arrivals, added, happend call List.mem_cons_self, ih fun c hc =>
        happend c (List.mem_cons_of_mem _ hc)]
      rfl

/-- If nothing is appended, every call spares all that is left. -/
theorem spares_of_mem_left {x : α} (happend : ∀ call ∈ calls, call.entry? = none)
    (hx : x ∈ log.left s calls) : ∀ call ∈ calls, log.spares x call = true := by
  rw [left, log.arrivals_eq_nil happend, List.append_nil] at hx
  obtain ⟨⟨_, later⟩, hmem, rfl⟩ := List.mem_map.1 hx
  obtain ⟨hheld, hspares⟩ := List.mem_filter.1 hmem
  obtain ⟨_, -, heq⟩ := List.mem_map.1 hheld
  cases heq
  exact List.all_eq_true.1 hspares

/-- What a cleanup spares, the same cleanup at an earlier time does. -/
theorem spares_earlier {policy : Retention} {now earlier : Time} {x : α}
    (hbefore : earlier.Precedes now) {inRange : (policy.cutoffs? now).isSome}
    {inRange' : (policy.cutoffs? earlier).isSome}
    (h : log.spares x (.cleanup policy now inRange) = true) :
    log.spares x (.cleanup policy earlier inRange') = true := by
  exact Time.isWithin_earlier hbefore h

end Log

/-! ### What calls do -/

/-- A store before some calls, the calls with the numbers of entries that they drop, and the store
after them. -/
structure Kept (s : MemoryStore) (calls : List Call) (counts : List Nat) (t : MemoryStore) :
    Prop where
  /-- The records are those that were there or were appended, in this order, but for those that a
  later cleanup found before its cut-off. -/
  records : t.records = Log.records.left s calls
  events : t.eventLog = Log.events.left s calls
  /-- What was dropped and what is left is all that there was. -/
  counted : counts.sum + (t.records.length + t.eventLog.length) =
    s.records.length + s.eventLog.length + (calls.filterMap Call.entry?).length
  itemMap : t.itemMap = s.itemMap
  visiting : t.visiting = s.visiting
  nodes : t.nodes = s.nodes
  switchedOn : t.switchedOff = false

/-- What one call does: each log keeps what the call spares, and takes what it adds. -/
structure Step (s : MemoryStore) (call : Call) (count : Nat) (t : MemoryStore) : Prop where
  records : t.records = s.records.filter (Log.records.spares · call) ++ Log.records.added call
  events : t.eventLog = s.eventLog.filter (Log.events.spares · call) ++ Log.events.added call
  counted : count + (t.records.length + t.eventLog.length) =
    s.records.length + s.eventLog.length + call.entry?.toList.length
  itemMap : t.itemMap = s.itemMap
  visiting : t.visiting = s.visiting
  nodes : t.nodes = s.nodes
  switchedOn : t.switchedOff = false

variable {s t : MemoryStore}

theorem ask_entry (hon : s.switchedOff = false) (entry : Entry) :
    entry.op.ask s = (.ok .done,
      { s with
        records := s.records ++ entry.record?.toList
        eventLog := s.eventLog ++ entry.event?.toList }) := by
  cases entry with
  | record r =>
      have happend : (Store.appendHistory r : Access MemoryStore _) s =
          (.ok (), { s with records := s.records ++ [r] }) := MemoryStore.whenOn_of_ok hon rfl
      rw [Entry.op, StoreOp.ask, Access.map_apply, happend]
      simp [Entry.record?, Entry.event?, Except.map]
  | event e =>
      have happend : (Store.appendEvent e : Access MemoryStore _) s =
          (.ok (), { s with eventLog := s.eventLog ++ [e] }) := MemoryStore.whenOn_of_ok hon rfl
      rw [Entry.op, StoreOp.ask, Access.map_apply, happend]
      simp [Entry.record?, Entry.event?, Except.map]

theorem step_append (hon : s.switchedOff = false) (entry : Entry) :
    ∃ t, (Call.append entry).ask s = (.ok 0, t) ∧ Step s (.append entry) 0 t := by
  have hask : (Call.append entry).ask s = (.ok 0, (entry.op.ask s).2) := by
    rw [Call.ask, Access.map_apply, ask_entry hon]
    rfl
  rw [ask_entry hon] at hask
  refine ⟨_, hask, ⟨?_, ?_, ?_, rfl, rfl, rfl, hon⟩⟩
  · simp [Log.spares, Log.added, Call.entry?, Log.records]
  · simp [Log.spares, Log.added, Call.entry?, Log.events]
  · cases entry <;> simp [Entry.record?, Entry.event?, Call.entry?] <;> omega

theorem step_cleanup (hon : s.switchedOff = false) {policy : Retention} {now : Time}
    (inRange : (policy.cutoffs? now).isSome) :
    ∃ count t, (Call.cleanup policy now inRange).ask s = (.ok count, t) ∧
      Step s (.cleanup policy now inRange) count t := by
  obtain ⟨⟨history, event⟩, hcutoffs⟩ := Option.isSome_iff_exists.1 inRange
  obtain ⟨hhistory, hevent⟩ := Retention.of_cutoffs? hcutoffs
  have hask : (Call.cleanup policy now inRange).ask = Store.purgeBefore history event := by
    simp only [Call.ask, Retention.cleanup?, hcutoffs, Option.map_some, Option.get_some]
  have hpurge : (Store.purgeBefore history event : Access MemoryStore Nat) s = _ :=
    MemoryStore.whenOn_of_ok hon rfl
  rw [hask]
  refine ⟨_, _, hpurge, ⟨?_, ?_, ?_, rfl, rfl, rfl, hon⟩⟩
  · simp only [Log.added, Call.entry?, Option.bind_none, Option.toList_none, List.append_nil]
    exact Retention.filter_isWithin hhistory HistoryRecord.time s.records
  · simp only [Log.added, Call.entry?, Option.bind_none, Option.toList_none, List.append_nil]
    exact Retention.filter_isWithin hevent Event.time s.eventLog
  · have hrecords := List.length_filter_le (fun r => decide (history ≤ r.time)) s.records
    have hevents := List.length_filter_le (fun e => decide (event ≤ e.time)) s.eventLog
    simp only [Call.entry?, Option.toList_none, List.length_nil]
    omega

theorem Call.step (hon : s.switchedOff = false) (call : Call) :
    ∃ count t, call.ask s = (.ok count, t) ∧ Step s call count t := by
  cases call with
  | append entry => exact ⟨0, step_append hon entry⟩
  | cleanup policy now inRange => exact step_cleanup hon inRange

/-- Nothing fails, and what the calls do to the logs adds up. -/
theorem exists_kept (hon : s.switchedOff = false) (calls : List Call) :
    ∃ counts t, calls.mapM Call.ask s = (.ok counts, t) ∧ Kept s calls counts t := by
  induction calls generalizing s with
  | nil =>
      refine ⟨[], s, rfl, ?_, ?_, ?_, rfl, rfl, rfl, hon⟩
      · exact (Log.records.left_nil s).symm
      · exact (Log.events.left_nil s).symm
      · simp
  | cons call calls ih =>
      obtain ⟨count, t, hask, hstep⟩ := Call.step hon call
      obtain ⟨counts, u, hrest, hkept⟩ := ih hstep.switchedOn
      refine ⟨count :: counts, u, ?_, ?_, ?_, ?_, ?_, ?_, ?_, hkept.switchedOn⟩
      · rw [List.mapM_cons, Access.bind_of_ok hask, Access.bind_of_ok hrest]
        rfl
      · rw [hkept.records, Log.left_cons _ hstep.records]
      · rw [hkept.events, Log.left_cons _ hstep.events]
      · have hcalls : ((call :: calls).filterMap Call.entry?).length =
            call.entry?.toList.length + (calls.filterMap Call.entry?).length := by
          cases h : call.entry? <;> simp [h, Nat.add_comm]
        have hbefore := hstep.counted
        have hafter := hkept.counted
        rw [hcalls, List.sum_cons]
        omega
      · rw [hkept.itemMap, hstep.itemMap]
      · rw [hkept.visiting, hstep.visiting]
      · rw [hkept.nodes, hstep.nodes]

/-- A call that spares all and adds nothing leaves the store as it is. -/
theorem Step.eq_of_spares {call : Call} {count : Nat} (h : Step s call count t)
    (hon : s.switchedOff = false) (hadds : call.entry? = none)
    (hrecords : ∀ r ∈ s.records, Log.records.spares r call = true)
    (hevents : ∀ e ∈ s.eventLog, Log.events.spares e call = true) : count = 0 ∧ t = s := by
  have hsame : t.records = s.records ∧ t.eventLog = s.eventLog := by
    constructor
    · rw [h.records, List.filter_eq_self.2 hrecords, Log.added, hadds]
      exact List.append_nil _
    · rw [h.events, List.filter_eq_self.2 hevents, Log.added, hadds]
      exact List.append_nil _
  refine ⟨?_, ?_⟩
  · have hcounted := h.counted
    rw [hsame.1, hsame.2, hadds, Option.toList_none, List.length_nil] at hcounted
    omega
  · obtain ⟨hrecords, hevents⟩ := hsame
    have hitems := h.itemMap
    have hvisiting := h.visiting
    have hnodes := h.nodes
    have hoff := h.switchedOn.trans hon.symm
    cases s
    cases t
    simp only [MemoryStore.mk.injEq]
    exact ⟨hitems, hvisiting, hrecords, hevents, hnodes, hoff⟩

/-- A cleanup that is repeated at the same time or before, with no appends since, drops nothing. -/
theorem repeated_cleanup {policy : Retention} {now earlier : Time}
    (hbefore : earlier.Precedes now) (inRange : (policy.cutoffs? now).isSome)
    (inRange' : (policy.cutoffs? earlier).isSome) {since : List Call}
    (hsince : ∀ call ∈ since, call.entry? = none) {counts : List Nat}
    (hkept : Kept s (.cleanup policy now inRange :: since) counts t) :
    (Call.cleanup policy earlier inRange').ask t = (.ok 0, t) := by
  have happend : ∀ call ∈ .cleanup policy now inRange :: since, call.entry? = none :=
    List.forall_mem_cons.2 ⟨rfl, hsince⟩
  obtain ⟨count, u, hask, hstep⟩ := Call.step hkept.switchedOn (.cleanup policy earlier inRange')
  obtain ⟨rfl, rfl⟩ := hstep.eq_of_spares hkept.switchedOn rfl
    (fun r hr => Log.records.spares_earlier hbefore (Log.records.spares_of_mem_left happend
      (hkept.records ▸ hr) _ List.mem_cons_self))
    (fun e he => Log.events.spares_earlier hbefore (Log.events.spares_of_mem_left happend
      (hkept.events ▸ he) _ List.mem_cons_self))
  exact hask

/-- Whatever is appended, and at whatever times there are cleanups by whatever policies: the store
holds, in the order in which they came, the records and the events that no later cleanup found
before its cut-off, the cleanups have counted all others, and nothing else is changed. A cleanup
that is repeated at the same time or before, with no appends since, drops nothing. -/
theorem keeps_unexpired {s : MemoryStore} (hon : s.switchedOff = false) (calls : List Call) :
    ∃ counts t, calls.mapM Call.ask s = (.ok counts, t) ∧ Kept s calls counts t ∧
      ∀ {policy : Retention} {now earlier : Time} (inRange : (policy.cutoffs? now).isSome)
        (inRange' : (policy.cutoffs? earlier).isSome) {since : List Call},
        earlier.Precedes now → (∀ call ∈ since, call.entry? = none) →
          ∃ counts' u,
            (Call.cleanup policy now inRange :: since).mapM Call.ask t = (.ok counts', u) ∧
              (Call.cleanup policy earlier inRange').ask u = (.ok 0, u) := by
  obtain ⟨counts, t, hasked, hkept⟩ := exists_kept hon calls
  refine ⟨counts, t, hasked, hkept, ?_⟩
  intro policy now earlier inRange inRange' since hbefore hsince
  obtain ⟨counts', u, hrest, hlast⟩ :=
    exists_kept hkept.switchedOn (.cleanup policy now inRange :: since)
  exact ⟨counts', u, hrest, repeated_cleanup hbefore inRange inRange' hsince hlast⟩

end Expiry

namespace Sample

/-- A policy that keeps records for a day and events for two. -/
def daily : Retention := ⟨1, 2, .ofSeconds 3600⟩

/-- The start of the second day of 2001. -/
def nextDay : Time := (Time.ofParts? 978393600 0).getD .epoch

/-- The middle of a leap second that ends the first day of 2001. -/
def leapSecond : Time := (Time.ofParts? 978393599 1500000000).getD .epoch

/-- A record of the first quarter of a second of 2001. -/
def quarter : HistoryRecord :=
  ⟨item.id, (Time.ofParts? 978307200 250000000).getD .epoch, .normal, .empty⟩

end Sample

namespace Expiry

/-- A cleanup keeps the record, and the same cleanup at the time of the record drops nothing. -/
theorem keeps_unexpired_sample :
    let add : Call := .append (.record Sample.quarter)
    let cleanup : Call := .cleanup Sample.daily Sample.nextDay (by decide)
    MemoryStore.empty.switchedOff = false ∧ Sample.quarter.time.Precedes Sample.nextDay ∧
      ∃ counts t, [add].mapM Call.ask .empty = (.ok counts, t) ∧ Kept .empty [add] counts t ∧
        ∃ counts' u, [cleanup].mapM Call.ask t = (.ok counts', u) ∧
          (Call.cleanup Sample.daily Sample.quarter.time (by decide)).ask u = (.ok 0, u) := by
  intro add cleanup
  have hon : MemoryStore.empty.switchedOff = false := rfl
  have hbefore : Sample.quarter.time.Precedes Sample.nextDay := by decide
  have hnow : (Sample.daily.cutoffs? Sample.nextDay).isSome := by decide
  have hearlier : (Sample.daily.cutoffs? Sample.quarter.time).isSome := by decide
  obtain ⟨counts, t, hasked, hkept, hrepeated⟩ := keeps_unexpired hon [add]
  obtain ⟨counts', u, hcleaned, hagain⟩ :=
    hrepeated hnow hearlier hbefore (List.forall_mem_nil _)
  exact ⟨hon, hbefore, counts, t, hasked, hkept, counts', u, hcleaned, hagain⟩

/-- A day before the inside of a leap second lies after the day before the time that follows it.
So the same cleanup at the earlier time drops a record that it has kept. -/
theorem repeated_in_leap_second_sample :
    let calls : List Call :=
      [.append (.record Sample.quarter), .cleanup Sample.daily Sample.nextDay (by decide),
        .cleanup Sample.daily Sample.leapSecond (by decide)]
    Sample.leapSecond < Sample.nextDay ∧
      ∃ t, calls.mapM Call.ask .empty = (.ok [0, 0, 1], t) ∧ t.records = [] :=
  ⟨by decide, _, rfl, rfl⟩

end Expiry

end Vigil
