import Vigil.Proofs.Store.World
import Vigil.Proofs.Time.Instant
import Vigil.Scheduler.Tick

/-!
# A tick that nothing comes between

A tick on a store in memory that does not fail takes its candidates one after another:
the items that are due, earliest first. A candidate that is claimed already is skipped;
any other is claimed, moved on and launched. The invariant of this loop, `Tick.Swept`,
says what has become of the candidates so far, and at the end it says what a tick has
done.
-/

namespace Vigil

/-! ### Times and items in order -/

namespace Time

theorem le_trans {a b c : Time} (hab : a ≤ b) (hbc : b ≤ c) : a ≤ c := by
  rw [le_def] at hab hbc ⊢
  omega

theorem le_total (a b : Time) : a ≤ b ∨ b ≤ a := by
  rw [le_def, le_def]
  omega

end Time

theorem Duration.eq_of_times? {d r : Duration} {n : Nat} (h : d.times? n = some r) :
    ⟨d.nanos * n⟩ = r := by
  simp only [times?] at h
  split at h
  · exact Option.some.inj h
  · cases h

namespace Tick

/-! ### Candidates -/

theorem candidates_perm (horizon : Time) (items : List Item) :
    (candidates horizon items).Perm (items.filter (·.isDue horizon)) :=
  List.mergeSort_perm _ _

theorem mem_candidates {horizon : Time} {s : MemoryStore} {c : Item} :
    c ∈ candidates horizon s.itemList ↔
      s.itemMap[c.id]? = some c ∧ c.isDue horizon = true := by
  rw [(candidates_perm horizon _).mem_iff, List.mem_filter, MemoryStore.mem_itemList]

theorem nodup_candidates (horizon : Time) (s : MemoryStore) :
    ((candidates horizon s.itemList).map (·.id)).Nodup := by
  rw [((candidates_perm horizon _).map _).nodup_iff]
  exact s.nodup_itemList.sublist (List.filter_sublist.map _)

theorem pairwise_candidates (horizon : Time) (items : List Item) :
    (candidates horizon items).Pairwise fun a b => a.progress.nextDue ≤ b.progress.nextDue := by
  have hsorted : (candidates horizon items).Pairwise fun a b =>
      decide (a.progress.nextDue ≤ b.progress.nextDue) = true := by
    refine List.pairwise_mergeSort ?_ ?_ _
    · intro a b c hab hbc
      exact decide_eq_true (Time.le_trans (of_decide_eq_true hab) (of_decide_eq_true hbc))
    · intro a b
      simpa using Time.le_total a.progress.nextDue b.progress.nextDue
  exact hsorted.imp of_decide_eq_true

end Tick

/-! ### Items that are launched -/

/-- What a due time is moved on by: the interval, a second at least, with its seconds taken as a
signed word of 64 bits. -/
def Settings.intervalSpan (s : Settings) : Span :=
  ⟨(max s.intervalSeconds 1).toInt64.toInt * nanosPerSecond⟩

/-- The later of `now` and the time an item is due. -/
def Item.dueFrom (now : Time) (c : Item) : Time :=
  if c.progress.nextDue < now then now else c.progress.nextDue

/-- An item as a tick at `now` launches it: due one interval after the later of `now`
and the time it was due, and with `now` as its last run. -/
def Item.launchedAt? (now : Time) (c : Item) : Option Item :=
  ((c.dueFrom now).add? c.settings.intervalSpan).map fun due =>
    { c with progress := { c.progress with nextDue := due, lastRun := some now } }

theorem Item.nextDueAfter?_eq (now : Time) (c : Item) :
    c.nextDueAfter? now = (c.dueFrom now).add? c.settings.intervalSpan := by
  rw [Settings.intervalSpan, Time.add?_eq_bind_ofNanos?]
  rfl

theorem Item.launchedAt?_eq (now : Time) (c : Item) :
    c.launchedAt? now = (c.nextDueAfter? now).map fun due =>
      { c with progress := { c.progress with nextDue := due, lastRun := some now } } := by
  rw [nextDueAfter?_eq, launchedAt?]

theorem Item.isSome_launchedAt? (now : Time) (c : Item) :
    (c.launchedAt? now).isSome = (c.nextDueAfter? now).isSome := by
  rw [launchedAt?_eq, Option.isSome_map]

/-- An item that a tick at `now` has moved on: as it was, but for its last run and its due time,
which lies one interval after the later of `now` and the due time before. -/
structure Item.Rearmed (now : Time) (c new : Item) : Prop where
  eq : new = { c with
    progress := { c.progress with nextDue := new.progress.nextDue, lastRun := some now } }
  isPlain : new.progress.nextDue.IsPlain
  /-- Out of a leap second it is moved forward from the second before, and back from the second
  after. -/
  instant : new.progress.nextDue.instant =
    (if 0 ≤ c.settings.intervalSpan.nanos then (c.dueFrom now).instant
      else (c.dueFrom now).laterInstant) + c.settings.intervalSpan.nanos

theorem Settings.one_le_max (n : UInt64) : 1 ≤ (max n 1).toNat := by
  have hle : 1 ≤ max n 1 := by
    show 1 ≤ (if n ≤ 1 then 1 else n)
    split
    · exact UInt64.le_refl 1
    · next hlt => exact UInt64.le_of_lt (UInt64.not_le.1 hlt)
  exact UInt64.le_iff_toNat_le.1 hle

/-- A due time is moved by a second or more, forward or back. -/
theorem Settings.le_intervalSpan (s : Settings) :
    nanosPerSecond ≤ s.intervalSpan.nanos ∨ nanosPerSecond ≤ -s.intervalSpan.nanos := by
  have hone := one_le_max s.intervalSeconds
  have hlt := (max s.intervalSeconds 1).toNat_lt
  have hsigned : (max s.intervalSeconds 1).toInt64.toInt =
      if 2 * (max s.intervalSeconds 1).toNat < 2 ^ 64 then
        ((max s.intervalSeconds 1).toNat : Int)
      else (max s.intervalSeconds 1).toNat - (2 ^ 64 : Nat) := BitVec.toInt_eq_toNat_cond _
  simp only [intervalSpan, hsigned, nanosPerSecond]
  split <;> omega

theorem Item.rearmed_of_launchedAt? {now : Time} {c new : Item}
    (h : c.launchedAt? now = some new) : c.Rearmed now new := by
  obtain ⟨due, hdue, rfl⟩ := Option.map_eq_some_iff.1 h
  rcases c.settings.le_intervalSpan with hforward | hback
  · obtain ⟨hplain, hinstant⟩ := Time.of_add?_of_le hforward hdue
    refine ⟨rfl, hplain, ?_⟩
    rw [if_pos (by omega)]
    exact hinstant
  · obtain ⟨hplain, hinstant⟩ := Time.of_add?_of_le_neg hback hdue
    refine ⟨rfl, hplain, ?_⟩
    rw [if_neg (by simp only [nanosPerSecond] at hback; omega)]
    exact hinstant

theorem Item.launchedAt?_id {now : Time} {c new : Item} (h : c.launchedAt? now = some new) :
    new.id = c.id := by
  obtain ⟨due, -, rfl⟩ := Option.map_eq_some_iff.1 h
  rfl

namespace Tick

/-! ### The loop over the candidates -/

theorem rearm?_eq (t : Tick) (c : Item) : t.rearm? c = c.launchedAt? t.now := by
  rw [rearm?, Item.rearm?, Item.launchedAt?_eq, Option.map_map]
  rfl

/-- What has become of the candidates so far in a tick at `now`, which has taken some and
skipped others. -/
structure Swept (timing : Timing) (now : Time) (before : Shared MemoryStore)
    (taken skipped : List Item) (t : Tick) (s : Shared MemoryStore) (launches : List Launch) :
    Prop where
  now_eq : t.now = now
  report : t.report = ⟨taken.map (·.id), skipped.map (·.id)⟩
  claims : ∀ id, s.claims.holds id = true ↔
    before.claims.holds id = true ∨ id ∈ taken.map (·.id)
  stored : ∀ c ∈ taken, ∃ i, c.launchedAt? now = some i ∧ s.world.itemMap[c.id]? = some i
  others : ∀ id, id ∉ taken.map (·.id) → s.world.itemMap[id]? = before.world.itemMap[id]?
  records : s.world.records = before.world.records
  eventLog : s.world.eventLog = before.world.eventLog
  nodes : s.world.nodes = before.world.nodes
  switchedOff : s.world.switchedOff = before.world.switchedOff
  length_launches : launches.length = taken.length
  /-- The launches are counted in a word of 32 bits. -/
  launches : ∀ (k : Nat) (c : Item), taken[k]? = some c → ∃ i, c.launchedAt? now = some i ∧
    launches[k]? = some ⟨c.id, i, ⟨timing.stagger.nanos * (k % UInt32.size)⟩⟩

/-- Writing the times of an item that is stored as it was loaded stores it as it is
launched. -/
theorem reschedule_launched {s : MemoryStore} {c new : Item} {now : Time}
    (hon : s.switchedOff = false) (hstored : s.itemMap[c.id]? = some c)
    (hnew : c.launchedAt? now = some new) :
    (Store.reschedule new.id new.progress.nextDue new.progress.lastRun :
      Access MemoryStore _) s = (.ok (), s.put new) := by
  obtain ⟨due, -, rfl⟩ := Option.map_eq_some_iff.1 hnew
  change MemoryStore.modifyItem c.id _ s = _
  unfold MemoryStore.modifyItem
  rw [MemoryStore.whenOn_of_ok hon (by rw [hstored])]

section

variable {σ : Type} [Store σ] {timing : Timing} {t : Tick} {s : Shared σ}
variable {c : Item} {rest : List Item}

theorem steps_succ (h : t.isOver = false) (timing : Timing) (fuel : Nat) (s : Shared σ)
    (launches : List Launch) :
    steps timing (fuel + 1) t s launches =
      steps timing fuel (t.step timing s).1 (t.step timing s).2.1
        (launches ++ (t.step timing s).2.2.toList) := by
  rw [steps, h]
  rfl

theorem steps_of_over (h : t.isOver = true) (timing : Timing) (fuel : Nat)
    (s : Shared σ) (launches : List Launch) :
    steps timing fuel t s launches = (t, s, launches) := by
  cases fuel with
  | zero => rfl
  | succ fuel => simp only [steps, h, if_true]

/-- The loop is over when no candidates are left. -/
theorem steps_of_nil (hstage : t.stage = .claim []) (fuel : Nat) (launches : List Launch) :
    steps timing (fuel + 1) t s launches = (t.goTo .done, s, launches) := by
  have hover : t.isOver = false := by simp only [isOver, hstage]
  have hlast : t.step timing s = (t.goTo .done, s, none) := by simp only [step, hstage]
  rw [steps_succ hover, hlast, steps_of_over rfl, Option.toList_none, List.append_nil]

/-- A candidate that is claimed already is skipped. -/
theorem steps_skip (hstage : t.stage = .claim (c :: rest)) (hheld : s.claims.holds c.id = true)
    (fuel : Nat) (launches : List Launch) :
    steps timing (fuel + 1) t s launches =
      steps timing fuel
        { t with
          stage := .claim rest
          report := { t.report with skipped := t.report.skipped ++ [c.id] } } s launches := by
  have hover : t.isOver = false := by simp only [isOver, hstage]
  rw [steps_succ hover]
  simp only [step, hstage, claimStep, Claims.claim?_eq_none_iff.2 hheld, Option.toList_none,
    List.append_nil]

/-- A candidate that is claimed and loaded is launched, whether its times can be written or
not. -/
theorem steps_launch (hstage : t.stage = .claim (c :: rest)) {claims : Claims}
    (hclaim : s.claims.claim? c.id = some claims) {loaded written : σ}
    (hload : (Store.get? c.id : Access σ _) s.world = (.ok (some c), loaded))
    (hdue : c.isDue t.horizon = true) {new : Item} (hnew : c.launchedAt? t.now = some new)
    (hwrite : ((Store.reschedule new.id new.progress.nextDue new.progress.lastRun :
      Access σ _) loaded).2 = written)
    {delay : Duration} (hdelay : t.delay? timing = some delay) (fuel : Nat)
    (launches : List Launch) :
    steps timing (fuel + 4) t s launches =
      steps timing fuel
        { t with
          stage := .claim rest
          report := { t.report with dispatched := t.report.dispatched ++ [c.id] } }
        { s with world := written, claims } (launches ++ [⟨c.id, new, delay⟩]) := by
  have hid : new.id = c.id := Item.launchedAt?_id hnew
  have hclaimed : t.step timing s = (t.goTo (.reload c.id rest), { s with claims }, none) := by
    simp only [step, hstage, claimStep, hclaim]
  have hloaded : (t.goTo (.reload c.id rest)).step timing { s with claims } =
      (t.goTo (.reschedule c.id new rest), { s with world := loaded, claims }, none) := by
    have hrearm : (t.goTo (.reload c.id rest)).rearm? c = some new := by
      rw [rearm?_eq]
      exact hnew
    simp only [step, goTo, reloadStep, hload, hdue, if_true]
    simp only [goTo] at hrearm
    simp only [hrearm]
  have hwritten : (t.goTo (.reschedule c.id new rest)).step timing
      { s with world := loaded, claims } =
        (t.goTo (.launch c.id new rest), { s with world := written, claims }, none) := by
    simp only [step, goTo, rescheduleStep, hwrite]
  have hlaunched : (t.goTo (.launch c.id new rest)).step timing
      { s with world := written, claims } =
        ({ t with
            stage := .claim rest
            report := { t.report with dispatched := t.report.dispatched ++ [c.id] } },
          { s with world := written, claims }, some ⟨c.id, new, delay⟩) := by
    have hin : (t.goTo (.launch c.id new rest)).delay? timing = some delay := hdelay
    simp only [goTo] at hin
    simp only [step, goTo, launchStep, hin, hid]
  have hover : t.isOver = false := by simp only [isOver, hstage]
  rw [steps_succ hover, hclaimed, steps_succ rfl, hloaded, steps_succ rfl, hwritten,
    steps_succ rfl, hlaunched]
  simp only [Option.toList_none, Option.toList_some, List.append_nil]

/-- A candidate that is claimed and cannot be loaded is given back. -/
theorem steps_giveBack (hstage : t.stage = .claim (c :: rest)) {claims : Claims}
    (hclaim : s.claims.claim? c.id = some claims) {loaded : σ} {e : StoreError}
    (hload : (Store.get? c.id : Access σ _) s.world = (.error e, loaded)) (fuel : Nat)
    (launches : List Launch) :
    steps timing (fuel + 2) t s launches =
      steps timing fuel (t.goTo (.claim rest))
        { s with world := loaded, claims := claims.release c.id } launches := by
  have hclaimed : t.step timing s = (t.goTo (.reload c.id rest), { s with claims }, none) := by
    simp only [step, hstage, claimStep, hclaim]
  have hreleased : (t.goTo (.reload c.id rest)).step timing { s with claims } =
      (t.goTo (.claim rest), { s with world := loaded, claims := claims.release c.id }, none) := by
    simp only [step, goTo, reloadStep, hload]
  have hover : t.isOver = false := by simp only [isOver, hstage]
  rw [steps_succ hover, hclaimed, steps_succ rfl, hreleased, Option.toList_none, List.append_nil,
    List.append_nil]

end

section

variable {timing : Timing} {t : Tick} {s : Shared MemoryStore} {c : Item} {rest : List Item}

/-- A candidate that can be claimed is claimed, loaded, written and launched. -/
theorem steps_take (hstage : t.stage = .claim (c :: rest)) {claims : Claims}
    (hclaim : s.claims.claim? c.id = some claims) (hon : s.world.switchedOff = false)
    (hstored : s.world.itemMap[c.id]? = some c) (hdue : c.isDue t.horizon = true) {new : Item}
    (hnew : c.launchedAt? t.now = some new) {delay : Duration}
    (hdelay : t.delay? timing = some delay) (fuel : Nat) (launches : List Launch) :
    steps timing (fuel + 4) t s launches =
      steps timing fuel
        { t with
          stage := .claim rest
          report := { t.report with dispatched := t.report.dispatched ++ [c.id] } }
        { s with world := s.world.put new, claims } (launches ++ [⟨c.id, new, delay⟩]) := by
  have hload := MemoryStore.get?_of_on hon c.id
  rw [hstored] at hload
  exact steps_launch hstage hclaim hload hdue hnew
    (congrArg Prod.snd (reschedule_launched hon hstored hnew)) hdelay fuel launches

end

section

variable {taken : List Item} {c new : Item}

/-- One claim more. -/
theorem holds_append {old held claims : Claims}
    (h : ∀ id, held.holds id = true ↔ old.holds id = true ∨ id ∈ taken.map (·.id))
    (hclaim : held.claim? c.id = some claims) (id : Uuid) :
    claims.holds id = true ↔ old.holds id = true ∨ id ∈ (taken ++ [c]).map (·.id) := by
  rw [Claims.holds_of_claim? hclaim, Bool.or_eq_true, decide_eq_true_iff, h, List.map_append,
    List.mem_append, List.map_singleton, List.mem_singleton, eq_comm, or_left_comm,
    or_comm (a := id = c.id)]

/-- One launch more. -/
theorem launched_append {timing : Timing} {now : Time} {launches : List Launch}
    (hlength : launches.length = taken.length)
    (h : ∀ (k : Nat) (c : Item), taken[k]? = some c → ∃ i, c.launchedAt? now = some i ∧
      launches[k]? = some ⟨c.id, i, ⟨timing.stagger.nanos * (k % UInt32.size)⟩⟩)
    (hnew : c.launchedAt? now = some new) {delay : Duration}
    (hdelay : delay = ⟨timing.stagger.nanos * (taken.length % UInt32.size)⟩)
    (k : Nat) (d : Item) (hd : (taken ++ [c])[k]? = some d) :
    ∃ i, d.launchedAt? now = some i ∧ (launches ++ [⟨c.id, new, delay⟩])[k]? =
      some ⟨d.id, i, ⟨timing.stagger.nanos * (k % UInt32.size)⟩⟩ := by
  rcases Nat.lt_or_ge k taken.length with hk | hk
  · rw [List.getElem?_append_left hk] at hd
    rw [List.getElem?_append_left (hlength ▸ hk)]
    exact h k d hd
  · obtain ⟨hlt, hget⟩ := List.getElem?_eq_some_iff.1 hd
    rw [List.length_append, List.length_singleton] at hlt
    obtain rfl : k = taken.length := by omega
    obtain rfl : c = d := by simpa using hget
    refine ⟨new, hnew, ?_⟩
    rw [← hdelay, ← hlength, List.getElem?_append_right (Nat.le_refl _), Nat.sub_self]
    rfl

theorem nanos_of_launched {timing : Timing} {now : Time} {launches : List Launch}
    (hlength : launches.length = taken.length)
    (h : ∀ (k : Nat) (c : Item), taken[k]? = some c → ∃ i, c.launchedAt? now = some i ∧
      launches[k]? = some ⟨c.id, i, ⟨timing.stagger.nanos * (k % UInt32.size)⟩⟩)
    {k : Nat} {l : Launch} (hl : launches[k]? = some l) (hk : k < UInt32.size) :
    l.delay.nanos = k * timing.stagger.nanos := by
  have hlt : k < taken.length := hlength ▸ (List.getElem?_eq_some_iff.1 hl).1
  obtain ⟨i, -, hlaunch⟩ := h k _ (List.getElem?_eq_getElem hlt)
  rw [hl] at hlaunch
  cases hlaunch
  rw [Nat.mod_eq_of_lt hk, Nat.mul_comm]

end

namespace Swept

variable {timing : Timing} {now : Time} {before : Shared MemoryStore} {taken skipped : List Item}
variable {t : Tick} {s : Shared MemoryStore} {launches : List Launch} {c : Item} {rest : List Item}

theorem goTo (h : Swept timing now before taken skipped t s launches) (stage : Stage) :
    Swept timing now before taken skipped (t.goTo stage) s launches :=
  ⟨h.now_eq, h.report, h.claims, h.stored, h.others, h.records, h.eventLog, h.nodes,
    h.switchedOff, h.length_launches, h.launches⟩

theorem skip (h : Swept timing now before taken skipped t s launches) :
    Swept timing now before taken (skipped ++ [c])
      { t with
        stage := .claim rest
        report := { t.report with skipped := t.report.skipped ++ [c.id] } } s launches where
  now_eq := h.now_eq
  report := by rw [h.report, List.map_append, List.map_singleton]
  claims := h.claims
  stored := h.stored
  others := h.others
  records := h.records
  eventLog := h.eventLog
  nodes := h.nodes
  switchedOff := h.switchedOff
  length_launches := h.length_launches
  launches := h.launches

theorem take (h : Swept timing now before taken skipped t s launches)
    (hnew : c.id ∉ taken.map (·.id)) {claims : Claims} (hclaim : s.claims.claim? c.id = some claims)
    {new : Item} (hlaunched : c.launchedAt? now = some new) {delay : Duration}
    (hdelay : t.delay? timing = some delay) :
    Swept timing now before (taken ++ [c]) skipped
      { t with
        stage := .claim rest
        report := { t.report with dispatched := t.report.dispatched ++ [c.id] } }
      { s with world := s.world.put new, claims } (launches ++ [⟨c.id, new, delay⟩]) where
  now_eq := h.now_eq
  report := by rw [h.report, List.map_append, List.map_singleton]
  claims := holds_append h.claims hclaim
  stored := by
    intro d hd
    rcases List.mem_append.1 hd with hd | hd
    · obtain ⟨i, hi, hstored⟩ := h.stored d hd
      have hne : new.id ≠ d.id := by
        rw [Item.launchedAt?_id hlaunched]
        intro heq
        exact hnew (heq ▸ List.mem_map_of_mem hd)
      exact ⟨i, hi, (MemoryStore.getElem?_put_of_ne hne _).trans hstored⟩
    · rw [List.mem_singleton.1 hd]
      exact ⟨new, hlaunched,
        MemoryStore.getElem?_put_of_eq (Item.launchedAt?_id hlaunched) _⟩
  others := by
    intro id hid
    rw [List.map_append, List.mem_append, not_or, List.map_singleton, List.mem_singleton] at hid
    have hne : new.id ≠ id := by
      rw [Item.launchedAt?_id hlaunched]
      exact Ne.symm hid.2
    exact (MemoryStore.getElem?_put_of_ne hne _).trans (h.others id hid.1)
  records := h.records
  eventLog := h.eventLog
  nodes := h.nodes
  switchedOff := h.switchedOff
  length_launches := by
    rw [List.length_append, List.length_append, h.length_launches, List.length_singleton,
      List.length_singleton]
  launches := launched_append h.length_launches h.launches hlaunched <| by
    rw [← Duration.eq_of_times? hdelay, h.report, List.length_map]

/-- Short of 2 ^ 32 launches, each waits one stagger longer than the one before it. -/
theorem delay_of_launch (h : Swept timing now before taken skipped t s launches) {k : Nat}
    {l : Launch} (hl : launches[k]? = some l) (hk : k < UInt32.size) :
    l.delay.nanos = k * timing.stagger.nanos :=
  nanos_of_launched h.length_launches h.launches hl hk

end Swept

/-- Whether a tick may claim an item. -/
def isFree (claims : Claims) (c : Item) : Bool := !claims.holds c.id

section

variable {taken rest : List Item} {c : Item} {claims : Claims}

/-- No candidate comes twice. -/
theorem not_mem_of_nodup_append (h : ((taken ++ c :: rest).map (·.id)).Nodup) :
    c.id ∉ taken.map (·.id) := by
  rw [List.map_append, List.map_cons] at h
  intro hmem
  exact (List.nodup_append.1 h).2.2 c.id hmem c.id List.mem_cons_self rfl

theorem holds_of_isFree_eq_false (h : isFree claims c = false) : claims.holds c.id = true := by
  simpa [isFree] using h

theorem exists_claim?_of_isFree (h : isFree claims c = true) :
    ∃ more, claims.claim? c.id = some more := by
  refine Option.ne_none_iff_exists'.1 ?_
  rw [Ne, Claims.claim?_eq_none_iff]
  simpa [isFree] using h

/-- A candidate that has not been taken is claimed only if it was before the tick. -/
theorem isFree_of_not_mem {held : Claims}
    (h : ∀ id, held.holds id = true ↔ claims.holds id = true ∨ id ∈ taken.map (·.id))
    (hc : c.id ∉ taken.map (·.id)) : isFree held c = isFree claims c :=
  congrArg (!·) (Bool.eq_iff_iff.2 ((h c.id).trans (or_iff_left hc)))

/-- A candidate that is taken is one of those that were free. -/
theorem length_take (hfree : isFree claims c = true) :
    (taken ++ [c]).length + (rest.filter (isFree claims)).length =
      taken.length + ((c :: rest).filter (isFree claims)).length := by
  rw [List.filter_cons_of_pos hfree, List.length_append, List.length_singleton, List.length_cons]
  omega

theorem exists_delay? {timing : Timing} {t : Tick}
    (hreport : t.report.dispatched = taken.map (·.id)) (hfree : isFree claims c = true)
    (hdelay : ∀ k < taken.length + ((c :: rest).filter (isFree claims)).length,
      (timing.stagger.times? (k % UInt32.size)).isSome = true) :
    ∃ delay, t.delay? timing = some delay := by
  refine Option.isSome_iff_exists.1 ?_
  rw [delay?, hreport, List.length_map]
  refine hdelay taken.length ?_
  rw [← length_take hfree, List.length_append, List.length_singleton]
  omega

end

/-- The loop over the candidates takes those that are free and skips the others, as far as the
new due times are in range. -/
theorem steps_sweep_append {timing : Timing} {now : Time} {before : Shared MemoryStore}
    {taken skipped rest later : List Item} {t : Tick} {s : Shared MemoryStore}
    {launches : List Launch} {fuel : Nat} (h : Swept timing now before taken skipped t s launches)
    (hstage : t.stage = .claim (rest ++ later)) (hfuel : stepBound (.claim (rest ++ later)) ≤ fuel)
    (hon : before.world.switchedOff = false) (hnodup : ((taken ++ rest).map (·.id)).Nodup)
    (hstored : ∀ c ∈ rest, before.world.itemMap[c.id]? = some c)
    (hdue : ∀ c ∈ rest, c.isDue t.horizon = true)
    (hrearm : ∀ c ∈ rest, isFree before.claims c = true → (c.launchedAt? now).isSome = true)
    (hdelay : ∀ k < taken.length + (rest.filter (isFree before.claims)).length,
      (timing.stagger.times? (k % UInt32.size)).isSome = true) :
    ∃ fuel' t' s' launches',
      steps timing fuel t s launches = steps timing fuel' t' s' launches' ∧
      t'.stage = .claim later ∧ t'.horizon = t.horizon ∧ stepBound (.claim later) ≤ fuel' ∧
      Swept timing now before (taken ++ rest.filter (isFree before.claims))
        (skipped ++ rest.filter fun c => !isFree before.claims c) t' s' launches' := by
  -- Induction on the candidates that are left; `Swept` is what goes from one to the next.
  induction rest generalizing taken skipped t s launches fuel with
  | nil =>
      refine ⟨fuel, t, s, launches, rfl, hstage, rfl, hfuel, ?_⟩
      rw [List.filter_nil, List.filter_nil, List.append_nil, List.append_nil]
      exact h
  | cons c rest ih =>
      rw [List.cons_append] at hstage hfuel
      have hfresh := not_mem_of_nodup_append hnodup
      have hsame := isFree_of_not_mem h.claims hfresh
      have hrest {d : Item} (hd : d ∈ rest) : d ∈ c :: rest := List.mem_cons_of_mem c hd
      cases hfree : isFree before.claims c with
      | true =>
          obtain ⟨fuel, rfl⟩ : ∃ f, fuel = f + 4 := by
            refine Nat.exists_eq_add_of_le' (Nat.le_trans ?_ hfuel)
            simp only [stepBound, List.length_cons]
            omega
          obtain ⟨claims, hclaim⟩ := exists_claim?_of_isFree (hsame.trans hfree)
          obtain ⟨new, hnew⟩ := Option.isSome_iff_exists.1 (hrearm c List.mem_cons_self hfree)
          obtain ⟨delay, htimes⟩ := exists_delay? (congrArg _ h.report) hfree hdelay
          rw [steps_take hstage hclaim (h.switchedOff.trans hon)
            ((h.others c.id hfresh).trans (hstored c List.mem_cons_self))
            (hdue c List.mem_cons_self) (h.now_eq ▸ hnew) htimes]
          rw [List.filter_cons_of_pos hfree, List.filter_cons_of_neg (by simp [hfree]),
            List.append_cons taken]
          refine ih (h.take hfresh hclaim hnew htimes) rfl ?_ ?_
            (fun d hd => hstored d (hrest hd)) (fun d hd => hdue d (hrest hd))
            (fun d hd => hrearm d (hrest hd)) (length_take hfree ▸ hdelay)
          · simp only [stepBound, List.length_cons] at hfuel ⊢
            omega
          · rw [List.append_assoc]
            exact hnodup
      | false =>
          obtain ⟨fuel, rfl⟩ : ∃ f, fuel = f + 1 := by
            refine Nat.exists_eq_add_of_le' (Nat.le_trans ?_ hfuel)
            simp only [stepBound, List.length_cons]
            omega
          rw [steps_skip hstage (holds_of_isFree_eq_false (hsame.trans hfree))]
          rw [List.filter_cons_of_neg (by simp [hfree]), List.filter_cons_of_pos (by simp [hfree]),
            List.append_cons skipped]
          refine ih h.skip rfl ?_ ?_
            (fun d hd => hstored d (hrest hd)) (fun d hd => hdue d (hrest hd))
            (fun d hd => hrearm d (hrest hd)) ?_
          · simp only [stepBound, List.length_cons] at hfuel ⊢
            omega
          · refine hnodup.sublist (List.Sublist.map _ ?_)
            exact (List.sublist_cons_self c rest).append_left taken
          · rw [List.filter_cons_of_neg (by simp [hfree])] at hdelay
            exact hdelay

/-- The loop over the candidates takes all that are free and skips the others. -/
theorem steps_sweep {timing : Timing} {now : Time} {before : Shared MemoryStore}
    {taken skipped rest : List Item} {t : Tick} {s : Shared MemoryStore} {launches : List Launch}
    {fuel : Nat} (h : Swept timing now before taken skipped t s launches)
    (hstage : t.stage = .claim rest) (hfuel : stepBound (.claim rest) ≤ fuel)
    (hon : before.world.switchedOff = false) (hnodup : ((taken ++ rest).map (·.id)).Nodup)
    (hstored : ∀ c ∈ rest, before.world.itemMap[c.id]? = some c)
    (hdue : ∀ c ∈ rest, c.isDue t.horizon = true)
    (hrearm : ∀ c ∈ rest, isFree before.claims c = true → (c.launchedAt? now).isSome = true)
    (hdelay : ∀ k < taken.length + (rest.filter (isFree before.claims)).length,
      (timing.stagger.times? (k % UInt32.size)).isSome = true) :
    ∃ t' s' launches', steps timing fuel t s launches = (t', s', launches') ∧ t'.stage = .done ∧
      Swept timing now before (taken ++ rest.filter (isFree before.claims))
        (skipped ++ rest.filter fun c => !isFree before.claims c) t' s' launches' := by
  have hall : rest ++ [] = rest := List.append_nil rest
  obtain ⟨fuel', t', s', launches', hsteps, hend, -, hleft, hswept⟩ :=
    steps_sweep_append h (hstage.trans (congrArg _ hall.symm)) (hall.symm ▸ hfuel) hon hnodup
      hstored hdue hrearm hdelay
  obtain ⟨left, rfl⟩ : ∃ f, fuel' = f + 1 := Nat.exists_eq_add_of_le' hleft
  exact ⟨t'.goTo .done, s', launches', hsteps.trans (steps_of_nil hend left launches'), rfl,
    hswept.goTo .done⟩

/-! ### A whole tick -/

/-- The items that are to be checked by `horizon` and are claimed before, or are not,
each once and earliest due first. -/
structure Selects (horizon : Time) (before : Shared MemoryStore) (claimed : Bool)
    (cs : List Item) : Prop where
  mem_iff : ∀ c, c ∈ cs ↔ before.world.itemMap[c.id]? = some c ∧ c.settings.enabled = true ∧
    c.progress.nextDue ≤ horizon ∧ before.claims.holds c.id = claimed
  nodup : (cs.map (·.id)).Nodup
  sorted : cs.Pairwise fun a b => a.progress.nextDue ≤ b.progress.nextDue

theorem selects_filter {horizon : Time} {before : Shared MemoryStore} {claimed : Bool}
    {p : Item → Bool} (hp : ∀ c, p c = true ↔ before.claims.holds c.id = claimed) :
    Selects horizon before claimed ((candidates horizon before.world.itemList).filter p) where
  mem_iff := by
    intro c
    rw [List.mem_filter, mem_candidates, Item.isDue_iff, hp, and_assoc, and_assoc]
  nodup := (nodup_candidates horizon before.world).sublist (List.filter_sublist.map _)
  sorted := (pairwise_candidates horizon _).sublist List.filter_sublist

/-- A tick has dispatched exactly the items that were due by its horizon and free, has
skipped those that were due and claimed, and has left all others alone. Its horizon lies ahead by
the lookahead, and what it has dispatched is due again one interval later. -/
def SweepsDueItems (timing : Timing) (now horizon : Time) (before : Shared MemoryStore)
    (t : Tick) (after : Shared MemoryStore) (launches : List Launch) : Prop :=
  (now.IsPlain ∨ nanosPerSecond ≤ timing.lookahead.nanos →
    horizon.IsPlain ∧ horizon.instant = now.instant + timing.lookahead.nanos) ∧
  ∃ taken skipped,
    Selects horizon before false taken ∧ Selects horizon before true skipped ∧
    t.stage = .done ∧ Swept timing now before taken skipped t after launches ∧
    (∀ c ∈ taken, ∃ new, after.world.itemMap[c.id]? = some new ∧ c.Rearmed now new) ∧
    ∀ k l, launches[k]? = some l → k < UInt32.size → l.delay.nanos = k * timing.stagger.nanos

/-- A tick at `now` that has listed its candidates. -/
def listed (now horizon : Time) (cs : List Item) : Tick := ⟨now, horizon, .claim cs, emptyReport⟩

section

variable {σ : Type} [Store σ] {timing : Timing} {now horizon : Time} {s : Shared σ} {world : σ}

omit [Store σ] in
theorem start_of_horizon (hgo : s.stopping = false)
    (hhorizon : timing.horizon? now = some horizon) :
    start timing now s.stopping = ⟨now, horizon, .enumerate, emptyReport⟩ := by
  simp only [start, hgo, Bool.false_eq_true, if_false, hhorizon]

/-- A tick lists its candidates first, and then goes through them. -/
theorem run_of_items (hgo : s.stopping = false) (hhorizon : timing.horizon? now = some horizon)
    {items : List Item} (hlist : (Store.items : Access σ _) s.world = (.ok items, world)) :
    run timing now s =
      steps timing (stepBound (.claim (candidates horizon items)))
        (listed now horizon (candidates horizon items)) { s with world } [] := by
  simp only [run, start_of_horizon hgo hhorizon, isOver, step, enumerateStep, hlist, goTo, listed,
    Bool.false_eq_true, if_false]

/-- A tick that cannot list the items is over. -/
theorem run_of_no_items (hgo : s.stopping = false) (hhorizon : timing.horizon? now = some horizon)
    {e : StoreError} (hlist : (Store.items : Access σ _) s.world = (.error e, world)) :
    run timing now s = (⟨now, horizon, .done, emptyReport⟩, { s with world }, []) := by
  simp only [run, start_of_horizon hgo hhorizon, isOver, step, enumerateStep, hlist, goTo,
    stepBound, steps, Bool.false_eq_true, if_false]

end

theorem run_eq_steps {timing : Timing} {now horizon : Time} {s : Shared MemoryStore}
    (hon : s.world.switchedOff = false) (hgo : s.stopping = false)
    (hhorizon : timing.horizon? now = some horizon) :
    run timing now s =
      steps timing (stepBound (.claim (candidates horizon s.world.itemList)))
        (listed now horizon (candidates horizon s.world.itemList)) s [] :=
  run_of_items hgo hhorizon (MemoryStore.whenOn_of_ok hon rfl)

theorem swept_listed (timing : Timing) (now horizon : Time) (cs : List Item)
    (s : Shared MemoryStore) : Swept timing now s [] [] (listed now horizon cs) s [] := by
  constructor <;> simp [listed, emptyReport]

namespace Sample

def second : Item := { Sample.item with id := ⟨3⟩ }

def halfMinute : Time := (Time.ofParts? 30 0).getD .epoch

/-- An item that is due at the end of the lookahead, and one that is due right after it. -/
def third : Item := { Sample.item with id := ⟨4⟩, progress := .fresh halfMinute }

def fourth : Item :=
  { Sample.item with id := ⟨5⟩, progress := .fresh ((Time.ofParts? 30 1).getD .epoch) }

/-- Four items, of which the second is claimed and the fourth is not due yet. -/
def shared : Shared MemoryStore where
  world := (((MemoryStore.empty.put Sample.item).put second).put third).put fourth
  claims := (Claims.empty.claim? second.id).getD .empty
  stopping := false

def horizon : Time := (Timing.standard.horizon? .epoch).getD .epoch

end Sample

/-- A tick that nothing comes between sweeps the due items of a store that does not fail,
if the times and delays that it needs are in range. -/
theorem run_sweeps_due_items {timing : Timing} {now horizon : Time} {s : Shared MemoryStore}
    (hon : s.world.switchedOff = false) (hgo : s.stopping = false)
    (hhorizon : now.add? ⟨timing.lookahead.nanos⟩ = some horizon)
    (hrearm : ∀ c ∈ s.world.itemList, c.isDue horizon = true → s.claims.holds c.id = false →
      ((c.dueFrom now).add? c.settings.intervalSpan).isSome = true)
    (hdelay : ∀ k < (s.world.itemList.filter fun c => isFree s.claims c && c.isDue horizon).length,
      (timing.stagger.times? (k % UInt32.size)).isSome = true) :
    SweepsDueItems timing now horizon s (run timing now s).1 (run timing now s).2.1
      (run timing now s).2.2 := by
  have hdue {c : Item} (hc : c ∈ candidates horizon s.world.itemList) := mem_candidates.1 hc
  have hrearmed : ∀ c ∈ candidates horizon s.world.itemList, isFree s.claims c = true →
      (c.launchedAt? now).isSome = true := by
    intro c hc hfree
    rw [Item.launchedAt?, Option.isSome_map]
    refine hrearm c (MemoryStore.mem_itemList.2 (hdue hc).1) (hdue hc).2 ?_
    simpa [isFree] using hfree
  have hlength : ((candidates horizon s.world.itemList).filter (isFree s.claims)).length =
      (s.world.itemList.filter fun c => isFree s.claims c && c.isDue horizon).length := by
    rw [((candidates_perm horizon s.world.itemList).filter _).length_eq, List.filter_filter]
  obtain ⟨t, after, launches, hsteps, hdone, hswept⟩ :=
    steps_sweep (swept_listed timing now horizon (candidates horizon s.world.itemList) s) rfl
      (Nat.le_refl _) hon (nodup_candidates horizon s.world) (fun c hc => (hdue hc).1)
      (fun c hc => (hdue hc).2) hrearmed (by simpa [hlength] using hdelay)
  rw [run_eq_steps hon hgo (Timing.horizon?_of_add? hhorizon), hsteps]
  refine ⟨?_, _, _, selects_filter ?_, selects_filter ?_, hdone, hswept, ?_, ?_⟩
  · rintro (hplain | hfar)
    · exact Time.of_add?_of_isPlain hplain hhorizon
    · exact Time.of_add?_of_le (Int.ofNat_le.2 hfar) hhorizon
  · intro c
    simp [isFree]
  · intro c
    simp [isFree]
  · intro c hc
    obtain ⟨new, hnew, hstored⟩ := hswept.stored c hc
    exact ⟨new, hstored, Item.rearmed_of_launchedAt? hnew⟩
  · intro k l hl hk
    exact hswept.delay_of_launch hl hk

/-- The first and the third of four items are dispatched, and they are due again a minute after
the tick and a minute after they were due. -/
theorem run_sweeps_due_items_sample :
    let r := run .standard .epoch Sample.shared
    r.1.report = ⟨[Sample.item.id, Sample.third.id], [Sample.second.id]⟩ ∧
      Sample.horizon.second = 30 ∧ r.2.2.map (·.delay.nanos) = [0, 5000000] ∧
      ([Sample.item.id, Sample.second.id, Sample.third.id, Sample.fourth.id].map fun id =>
        (r.2.1.world.itemMap[id]?.map fun i => i.progress.nextDue.second)) =
          [some 60, some 0, some 90, some 30] ∧
      SweepsDueItems .standard .epoch Sample.horizon Sample.shared r.1 r.2.1 r.2.2 := by
  intro r
  have hhorizon : Timing.standard.horizon? .epoch = some Sample.horizon := rfl
  have hcandidates : candidates Sample.horizon Sample.shared.world.itemList =
      [Sample.item, Sample.second, Sample.third] :=
    List.mergeSort_of_pairwise (l := [Sample.item, Sample.second, Sample.third])
      (by decide +kernel)
  have hrun : r = _ := run_eq_steps rfl rfl hhorizon
  rw [hcandidates] at hrun
  refine ⟨?_, rfl, ?_, ?_, run_sweeps_due_items rfl rfl rfl (by decide +kernel) (by decide +kernel)⟩
  all_goals
    rw [hrun]
    decide +kernel

end Tick

end Vigil
