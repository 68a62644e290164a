import Mathlib.Data.List.Induction
import Vigil.Proofs.Polling.Edits

/-!
# Records without an item

Deleting an item takes its history with it, in one step. But a dispatch that is under way
goes on, and appends the record of its check although there is no item any more. This is the
only way in which a record comes to be without its item: it was deleted while a tick or a
dispatch had a copy of it of which a record was still to come.
-/

namespace Vigil

/-! ### Records to come -/

/-- Whether a check of the item may leave a record. -/
def Item.LeavesRecords (i : Item) : Prop := ∃ changed, i.settings.logMode.records changed = true

/-- The tick is about to launch a dispatch that may leave a record of an item. -/
def Tick.MayRecord (t : Tick) (id : Uuid) : Prop :=
  match t.stage with
  | .reschedule _ item _ => item.id = id ∧ item.LeavesRecords
  | .launch _ item _ => item.id = id ∧ item.LeavesRecords
  | _ => False

/-- The dispatch may still leave a record of an item. -/
def Task.MayRecord (t : Task) (id : Uuid) : Prop :=
  match t.phase with
  | .recording _ es _ => ∃ r, .keepHistory r ∈ es ∧ r.item = id
  | .over _ => False
  | _ => t.item.id = id ∧ t.item.LeavesRecords

namespace Dispatch

/-- The only record that follows from a check is one of its item. -/
theorem of_keepHistory_mem_settle {item : Item} {c : Conclusion} {now : Time} {r : HistoryRecord}
    (h : .keepHistory r ∈ (settle item c now).2) : r.item = item.id ∧ item.LeavesRecords := by
  rw [settle_snd] at h
  simp only [List.mem_append, List.mem_singleton, reduceCtorEq, or_false] at h
  rcases h with (hcrash | hannounced) | hrecord
  · cases c <;> simp [crashEffects] at hcrash
  · unfold announceEffects at hannounced
    split at hannounced
    · cases hannounced
    · split at hannounced <;> simp at hannounced
  · unfold recordEffects at hrecord
    rw [List.mem_append] at hrecord
    rcases hrecord with hkept | hhanded
    · split at hkept
      · next hlog =>
        obtain rfl := Effect.keepHistory.inj (List.mem_singleton.1 hkept)
        exact ⟨rfl, _, hlog⟩
      · cases hkept
    · split at hhanded <;> simp at hhanded

end Dispatch

namespace Task

variable {t : Task} {id : Uuid}

theorem mayRecord_of_conclude {c : Conclusion} {now : Time}
    (h : (t.conclude c now).MayRecord id) : t.item.id = id ∧ t.item.LeavesRecords := by
  obtain ⟨r, hr, rfl⟩ : ∃ r, Effect.keepHistory r ∈ (Dispatch.settle t.item c now).2 ∧
    r.item = id := h
  obtain ⟨hitem, hleaves⟩ := Dispatch.of_keepHistory_mem_settle hr
  exact ⟨hitem.symm, hleaves⟩

theorem mayRecord_of_beginCheck {stopping : Bool} {grace : Duration} {program : Option Program}
    {now : Time} (h : (t.beginCheck stopping grace program now).1.MayRecord id) :
    t.MayRecord id := by
  obtain ⟨item, claim, phase⟩ := t
  cases phase with
  | delayed delay =>
      have hbegin : ((⟨item, claim, .delayed delay⟩ : Task).begin stopping grace
          (program.map fun p _ => p) now).MayRecord id := by
        simp only [beginCheck] at h
        split at h <;> exact h
      unfold begin at hbegin
      split at hbegin
      · cases hbegin
      · split at hbegin
        · exact mayRecord_of_conclude hbegin
        · split at hbegin
          · cases hbegin
          · exact hbegin
  | _ => exact h

theorem mayRecord_of_endCheck {waits : Nat} {now : Time}
    (h : (t.endCheck waits now).1.MayRecord id) : t.MayRecord id := by
  obtain ⟨item, claim, phase⟩ := t
  cases phase with
  | checking m p budget => exact mayRecord_of_conclude h
  | _ => exact h

variable {σ : Type} [Store σ] [Directory σ] [Exporter σ]

theorem mayRecord_of_recordStep {now : Time} {s : Shared σ}
    (h : (t.recordStep now s).1.MayRecord id) : t.MayRecord id := by
  obtain ⟨item, claim, phase⟩ := t
  cases phase with
  | recording found es report =>
      cases es with
      | nil => cases h
      | cons e es =>
          obtain ⟨r, hr, hid⟩ := h
          exact ⟨r, List.mem_cons_of_mem _ hr, hid⟩
  | _ => exact h

theorem mayRecord_of_nextRecord? {r : HistoryRecord} (h : t.nextRecord? = some r) :
    t.MayRecord r.item := by
  obtain ⟨item, claim, phase⟩ := t
  cases phase with
  | recording found es report =>
      cases es with
      | nil => cases h
      | cons e es =>
          cases e with
          | keepHistory kept =>
              obtain rfl : kept = r := Option.some.inj h
              exact ⟨kept, List.mem_cons_self, rfl⟩
          | _ => cases h
  | _ => cases h

end Task

namespace Tick

variable {σ : Type} [Store σ] [Directory σ] [HoldingStore σ] {t : Tick} {s : Shared σ}
  {c : Contents} {timing : Timing} {id : Uuid}

/-- A tick only comes to carry an item that is in the store. -/
theorem mayRecord_of_step (h : HoldingStore.Holds s.world c)
    (hstep : (t.step timing s).1.MayRecord id) : t.MayRecord id ∨ (c.settings? id).isSome := by
  obtain ⟨now, horizon, stage, report⟩ := t
  cases stage with
  | enumerate =>
      simp only [step, enumerateStep] at hstep
      split at hstep <;> cases hstep
  | claim rest =>
      cases rest with
      | nil => cases hstep
      | cons candidate rest =>
          simp only [step, claimStep] at hstep
          split at hstep <;> cases hstep
  | reload claimed rest =>
      -- the one step that brings a copy nobody had; it comes out of the store
      simp only [step, reloadStep] at hstep
      split at hstep
      · next old world hfound =>
        split at hstep
        · split at hstep
          · next new hrearm =>
            obtain ⟨hsettings, hid⟩ := HoldingStore.settings_of_get? h hfound
            obtain ⟨rfl, -⟩ := hstep
            rw [rearm?_id hrearm, hid old rfl, ← hsettings]
            exact .inr rfl
          · cases hstep
        · cases hstep
      · cases hstep
  | reschedule claimed item rest => exact .inl hstep
  | launch claimed item rest =>
      simp only [step, launchStep] at hstep
      split at hstep <;> cases hstep
  | done => exact .inl hstep
  | overflowed => exact .inl hstep

omit [Directory σ] [HoldingStore σ] in
theorem mayRecord_of_launch {l : Launch} (hlaunch : (t.step timing s).2.2 = some l)
    (h : (Task.ofLaunch l).MayRecord id) : t.MayRecord id := by
  obtain ⟨now, horizon, stage, report⟩ := t
  cases stage with
  | launch claimed item rest =>
      simp only [step, launchStep] at hlaunch
      split at hlaunch
      · cases hlaunch
        exact h
      · cases hlaunch
  | claim rest => cases rest <;> cases hlaunch
  | _ => cases hlaunch

end Tick

/-- A tick or a dispatch has a copy of an item of which a record may still come. -/
def Polling.MayRecord {σ : Type} (p : Polling σ) (id : Uuid) : Prop :=
  (∃ t ∈ p.ticks, t.MayRecord id) ∨ ∃ t ∈ p.tasks, t.MayRecord id

namespace Polling

variable {σ : Type} [Store σ] [Directory σ] [Exporter σ] [HoldingWorld σ] {timing : Timing}
  {p : Polling σ} {c : Contents} {id : Uuid} {n : Nat}

omit [Store σ] [Directory σ] [Exporter σ] [HoldingWorld σ] in
theorem mayRecord_of_set {t u : Task} (ht : p.tasks[n]? = some t)
    (hu : u.MayRecord id → t.MayRecord id) (h : ∃ v ∈ p.tasks.set n u, v.MayRecord id) :
    ∃ v ∈ p.tasks, v.MayRecord id := by
  obtain ⟨v, hv, hmay⟩ := h
  rcases List.mem_or_eq_of_mem_set hv with hold | rfl
  · exact ⟨v, hold, hmay⟩
  · exact ⟨t, List.mem_of_getElem? ht, hu hmay⟩

/-- Whoever may leave a record after an action might have before, or the item is there. -/
theorem mayRecord_of_act (h : HoldingStore.Holds p.shared.world c) {a : Action σ}
    (hact : (p.act timing a).MayRecord id) : p.MayRecord id ∨ (c.settings? id).isSome := by
  cases a with
  | startTick now =>
      rcases hact with ⟨t, ht, hmay⟩ | htask
      · rcases List.mem_append.1 ht with hold | hnew
        · exact .inl (.inl ⟨t, hold, hmay⟩)
        · obtain rfl := List.mem_singleton.1 hnew
          unfold Tick.start at hmay
          split at hmay
          · cases hmay
          · split at hmay <;> cases hmay
      · exact .inl (.inr htask)
  | stepTick n =>
      simp only [act] at hact
      split at hact
      · exact .inl hact
      · next t ht =>
        have hmem : t ∈ p.ticks := List.mem_of_getElem? ht
        rcases hact with ⟨u, hu, hmay⟩ | ⟨u, hu, hmay⟩
        · rcases List.mem_or_eq_of_mem_set hu with hold | rfl
          · exact .inl (.inl ⟨u, hold, hmay⟩)
          · exact (Tick.mayRecord_of_step h hmay).imp_left fun hcarried => .inl ⟨t, hmem, hcarried⟩
        · rcases List.mem_append.1 hu with hold | hnew
          · exact .inl (.inr ⟨u, hold, hmay⟩)
          · obtain ⟨l, hl, rfl⟩ := Option.map_eq_some_iff.1 (Option.mem_toList.1 hnew)
            exact .inl (.inl ⟨t, hmem, Tick.mayRecord_of_launch hl hmay⟩)
  | dropTick n =>
      simp only [act] at hact
      split at hact
      · exact .inl hact
      · rcases hact with ⟨u, hu, hmay⟩ | htask
        · exact .inl (.inl ⟨u, List.mem_of_mem_eraseIdx hu, hmay⟩)
        · exact .inl (.inr htask)
  | beginCheck n program now =>
      simp only [act] at hact
      split at hact
      · exact .inl hact
      · next t ht =>
        exact .inl (hact.imp_right (mayRecord_of_set ht Task.mayRecord_of_beginCheck))
  | endCheck n waits now =>
      simp only [act] at hact
      split at hact
      · exact .inl hact
      · next t ht => exact .inl (hact.imp_right (mayRecord_of_set ht Task.mayRecord_of_endCheck))
  | effect n now =>
      simp only [act] at hact
      split at hact
      · exact .inl hact
      · next t ht => exact .inl (hact.imp_right (mayRecord_of_set ht Task.mayRecord_of_recordStep))
  | dropTask n =>
      simp only [act] at hact
      split at hact
      · exact .inl hact
      · rcases hact with htick | ⟨u, hu, hmay⟩
        · exact .inl (.inl htick)
        · exact .inl (.inr ⟨u, List.mem_of_mem_eraseIdx hu, hmay⟩)
  | stepRetest n now =>
      simp only [act] at hact
      split at hact <;> exact .inl hact
  | _ => exact .inl hact

omit [Store σ] [Directory σ] [Exporter σ] [HoldingWorld σ] in
theorem mayRecord_of_nextRecord? {a : Action σ} {r : HistoryRecord}
    (h : p.nextRecord? a = some r) : p.MayRecord r.item := by
  cases a with
  | effect n now =>
      obtain ⟨t, ht, hr⟩ := Option.bind_eq_some_iff.1 h
      exact .inr ⟨t, List.mem_of_getElem? ht, Task.mayRecord_of_nextRecord? hr⟩
  | _ => cases h

end Polling

/-! ### Deletes while a record may come -/

/-- The record that a move appends of its own. -/
def Move.record? {σ : Type} : Move σ → Option HistoryRecord
  | own _ => none
  | edit op => op.record?

namespace Contents.Becomes

variable {c d : Contents} {op : StoreOp} {r : Except StoreError StoreAnswer}

/-- Only a delete takes an item away. -/
theorem isSome_settings? (h : c.Becomes op r d) {id : Uuid} (hid : (c.settings? id).isSome) :
    (d.settings? id).isSome ∨ op = .delete id ∧ r = .ok .done := by
  cases h with
  | @saved item =>
      by_cases heq : id = item.id
      · simp [put, heq]
      · simp [put, Function.update_of_ne heq, hid]
  | @deleted other =>
      by_cases heq : id = other
      · exact .inr ⟨by rw [heq], rfl⟩
      · simp [drop, Function.update_of_ne heq, hid]
  | _ => exact .inl hid

/-- A delete leaves no record of its item, and what does not append leaves no new ones. -/
theorem mem_records (h : c.Becomes op r d) (hop : op.record? = none) {x : HistoryRecord}
    (hx : x ∈ d.records) : x ∈ c.records ∧ ¬ (op = .delete x.item ∧ r = .ok .done) := by
  cases h with
  | deleted =>
      obtain ⟨hmem, hother⟩ := List.mem_filter.1 hx
      refine ⟨hmem, ?_⟩
      rintro ⟨⟨⟩, -⟩
      simp at hother
  | purged hsublist => exact ⟨hsublist.subset hx, by simp⟩
  | appended => cases hop
  | _ => exact ⟨hx, by simp⟩

end Contents.Becomes

namespace Polling

variable {σ : Type} [Store σ] [Directory σ] [Exporter σ] {timing : Timing} {p : Polling σ}
  {ms : List (Move σ)} {id : Uuid}

/-- Among moves an item was deleted while a record of it might still come. -/
def DeletedInFlight (timing : Timing) (p : Polling σ) (ms : List (Move σ)) (id : Uuid) : Prop :=
  ∃ before after, ms = before ++ .edit (.delete id) :: after ∧
    ((StoreOp.delete id).ask (p.moved timing before).shared.world).1 = .ok .done ∧
    (p.moved timing before).MayRecord id

theorem DeletedInFlight.concat (h : p.DeletedInFlight timing ms id) (m : Move σ) :
    p.DeletedInFlight timing (ms ++ [m]) id := by
  obtain ⟨before, after, rfl, hdone, hmay⟩ := h
  exact ⟨before, after ++ [m], by simp, hdone, hmay⟩

theorem moved_concat (p : Polling σ) (ms : List (Move σ)) (m : Move σ) :
    p.moved timing (ms ++ [m]) = (p.moved timing ms).act timing m.action := by
  induction ms generalizing p with
  | nil => rfl
  | cons n ms ih => exact ih _

/-- Every record has its item, and so has everyone of whom a record may come, unless the item
was deleted while a record of it might come. -/
structure Owned (timing : Timing) (p : Polling σ) (ms : List (Move σ)) (c : Contents) : Prop where
  records : ∀ r ∈ c.records, (c.settings? r.item).isSome ∨ p.DeletedInFlight timing ms r.item
  copies : ∀ id, (p.moved timing ms).MayRecord id →
    (c.settings? id).isSome ∨ p.DeletedInFlight timing ms id

variable [HoldingWorld σ] {c : Contents}

open HoldingStore

theorem Owned.own (h : p.Owned timing ms c) (hholds : Holds (p.moved timing ms).shared.world c)
    {a : Action σ} (ha : a.KeepsContents) :
    ∃ d, Holds (p.moved timing (ms ++ [.own a])).shared.world d ∧
      p.Owned timing (ms ++ [.own a]) d := by
  obtain ⟨d, hafter, hsettings, hrecords⟩ := exists_holds_act timing hholds ha
  rw [moved_concat]
  refine ⟨d, hafter, ?_, ?_⟩
  · intro r hr
    rw [hsettings]
    have howned : (c.settings? r.item).isSome ∨ p.DeletedInFlight timing ms r.item := by
      rcases List.mem_append.1 (hrecords.subset hr) with hold | hnew
      · exact h.records r hold
      · exact h.copies r.item (mayRecord_of_nextRecord? (Option.mem_toList.1 hnew))
    exact howned.imp_right fun hdeleted => hdeleted.concat _
  · intro id hmay
    rw [moved_concat] at hmay
    rw [hsettings]
    rcases mayRecord_of_act hholds hmay with hbefore | hthere
    · exact (h.copies id hbefore).imp_right fun hdeleted => hdeleted.concat _
    · exact .inl hthere

theorem Owned.edit (h : p.Owned timing ms c) (hholds : Holds (p.moved timing ms).shared.world c)
    {op : StoreOp} (hop : op.record? = none) :
    ∃ d, Holds (p.moved timing (ms ++ [.edit op])).shared.world d ∧
      p.Owned timing (ms ++ [.edit op]) d := by
  obtain ⟨d, hbecomes, hafter⟩ := HoldingStore.ask op hholds
  refine ⟨d, by rw [moved_concat]; exact hafter, ?_, ?_⟩
  · intro r hr
    obtain ⟨hmem, hother⟩ := hbecomes.mem_records hop hr
    rcases h.records r hmem with hthere | hdeleted
    · exact .inl ((hbecomes.isSome_settings? hthere).resolve_right hother)
    · exact .inr (hdeleted.concat _)
  · intro id hmay
    rw [moved_concat] at hmay
    have hbefore : (p.moved timing ms).MayRecord id := hmay
    rcases h.copies id hbefore with hthere | hdeleted
    · rcases hbecomes.isSome_settings? hthere with hstill | ⟨rfl, hdone⟩
      · exact .inl hstill
      · exact .inr ⟨ms, [], rfl, hdone, hbefore⟩
    · exact .inr (hdeleted.concat _)

theorem exists_owned (timing : Timing) {world : σ} (hworld : Holds world .empty)
    {ms : List (Move σ)} (hms : ∀ m ∈ ms, m.Fair) (hedits : ∀ m ∈ ms, m.record? = none) :
    ∃ c, Holds ((start world).moved timing ms).shared.world c ∧
      (start world).Owned timing ms c := by
  -- on the last move: a delete in flight looks back at the whole run before it
  induction ms using List.reverseRecOn with
  | nil =>
      refine ⟨.empty, hworld, by simp [Contents.empty], ?_⟩
      intro id hmay
      rcases hmay with ⟨t, ht, -⟩ | ⟨t, ht, -⟩ <;> cases ht
  | append_singleton ms m ih =>
      obtain ⟨c, hholds, howned⟩ := ih (fun n hn => hms n (List.mem_append_left _ hn))
        fun n hn => hedits n (List.mem_append_left _ hn)
      have hfair := hms m (by simp)
      have hedit := hedits m (by simp)
      cases m with
      | own a => exact howned.own hholds hfair
      | edit op => exact howned.edit hholds hedit

/-- From an empty store on, whatever is saved, deleted and purged meanwhile, a record has its
item unless the item was deleted while a tick or a dispatch had a copy of it of which a record
might still come. A delete itself leaves neither the item nor a record of it. -/
theorem records_have_items (timing : Timing) {world : σ} (hworld : Holds world .empty)
    {ms : List (Move σ)} (hms : ∀ m ∈ ms, m.Fair) (hedits : ∀ m ∈ ms, m.record? = none) :
    (∃ c, Holds ((start world).moved timing ms).shared.world c ∧
      ∀ r ∈ c.records,
        (c.settings? r.item).isSome ∨ (start world).DeletedInFlight timing ms r.item) ∧
      ∀ before id, ms = before ++ [.edit (.delete id)] →
        ((StoreOp.delete id).ask ((start world).moved timing before).shared.world).1 = .ok .done →
        ∃ c, Holds ((start world).moved timing ms).shared.world c ∧
          c.settings? id = none ∧ ∀ r ∈ c.records, r.item ≠ id := by
  constructor
  · obtain ⟨c, hholds, howned⟩ := exists_owned timing hworld hms hedits
    exact ⟨c, hholds, howned.records⟩
  · rintro before id rfl hdone
    have hfair : ∀ m ∈ before, m.Fair := fun m hm => hms m (List.mem_append_left _ hm)
    obtain ⟨c, hholds, -⟩ := exists_holds_moved (p := start world) timing hworld hfair
    obtain ⟨d, hbecomes, hafter⟩ := HoldingStore.ask (.delete id) hholds
    rw [hdone] at hbecomes
    refine ⟨d, by rw [moved_concat]; exact hafter, ?_⟩
    cases hbecomes with
    | deleted =>
        refine ⟨by simp [Contents.drop], ?_⟩
        intro r hr
        simpa using (List.mem_filter.1 hr).2

end Polling

/-! ### A small world -/

/-- An item of which every check leaves a record. -/
def Sample.logged : Item :=
  { Sample.item with settings := { Sample.item.settings with logMode := .always } }

/-- A delete in flight accounts for the record that it leaves, and one with nothing under way
leaves none. -/
theorem Polling.records_have_items_sample :
    (∃ c, HoldingStore.Holds ((start (World.start MemoryStore.empty .empty .absent)).moved .standard
        (Sample.deletedInFlight Sample.logged)).shared.world c ∧
      ∀ r ∈ c.records, (c.settings? r.item).isSome ∨
        (start (World.start MemoryStore.empty .empty .absent)).DeletedInFlight .standard
          (Sample.deletedInFlight Sample.logged) r.item) ∧
    ∃ c, HoldingStore.Holds ((start (World.start Database.fresh .empty .absent)).moved .standard
        [.edit (.save Sample.logged), .edit (.delete Sample.logged.id)]).shared.world c ∧
      c.settings? Sample.logged.id = none ∧ ∀ r ∈ c.records, r.item ≠ Sample.logged.id := by
  constructor
  · exact (records_have_items .standard
      (World.holds_start MemoryStore.holds_empty .empty .absent)
      (Sample.fair_deletedInFlight Sample.logged)
      (by simp [Sample.deletedInFlight, Move.record?, StoreOp.record?])).1
  · refine (records_have_items .standard (World.holds_start Database.fresh_holds .empty .absent)
      (by simp [Move.Fair]) (by simp [Move.record?, StoreOp.record?])).2
      [.edit (.save Sample.logged)] Sample.logged.id rfl ?_
    rfl

/-- A dispatch appends the record of an item that was deleted while it was at its check, in
memory and in a database. -/
theorem Polling.record_without_item_sample :
    let s := ((start (World.start MemoryStore.empty .empty .absent)).moved .standard
      (Sample.deletedInFlight Sample.logged)).shared.world.store.inner
    let db := ((start (World.start Database.fresh .empty .absent)).moved .standard
      (Sample.deletedInFlight Sample.logged)).shared.world.store.inner
    (s.records.map HistoryRecord.item = [Sample.logged.id] ∧ s.itemMap.isEmpty = true) ∧
      (db.table? .history).map (fun t => t.rows.length) = some 1 ∧
      (db.table? .items).map (fun t => t.rows.length) = some 0 := by
  decide +kernel

end Vigil
