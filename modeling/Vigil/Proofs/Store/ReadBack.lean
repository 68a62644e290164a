import Vigil.Proofs.Store.ItemTable

/-!
# What a database gives back

An item that was written is given back with its times at the start of their milliseconds,
by a look-up and in every listing, exactly if the numbers among its readings are finite and
none of its times is inside a leap second. An item with another number is written as well:
then a look-up of it fails, and listings pass it over in silence.
-/

namespace Vigil

theorem StoreError.ofTimestamp_floorMillis_iff {t : Time} :
    ofTimestamp t.millis = .ok t.floorMillis ↔ t.nanos < nanosPerSecond := by
  rw [← Time.ofMillis?_millis_iff, ofTimestamp]
  cases Time.ofMillis? t.millis <;> simp

namespace Progress

def floorMillis (p : Progress) : Progress :=
  { p with nextDue := p.nextDue.floorMillis, lastRun := p.lastRun.map Time.floorMillis }

/-- Progress with finite numbers only, and without a time inside a leap second. -/
structure Survives (p : Progress) : Prop where
  nextDue : p.nextDue.nanos < nanosPerSecond
  lastRun : ∀ t ∈ p.lastRun, t.nanos < nanosPerSecond
  readings : ∀ x ∈ p.readings.floats, x.isFinite = true

variable {p : Progress}

theorem mapM_lastRun_iff : (p.lastRun.map Time.millis).mapM StoreError.ofTimestamp =
    .ok (p.lastRun.map Time.floorMillis) ↔ ∀ t ∈ p.lastRun, t.nanos < nanosPerSecond := by
  cases p.lastRun with
  | none => exact iff_of_true rfl (by simp)
  | some t =>
      simp only [Option.map_some, Option.mapM_some, Option.mem_some_iff, forall_eq']
      rw [← StoreError.ofTimestamp_floorMillis_iff]
      cases StoreError.ofTimestamp t.millis <;> simp [Functor.map, Except.map]

theorem error_of_not_isFinite (h : ¬ ∀ x ∈ p.readings.floats, x.isFinite = true) :
    ∃ e, p.reread = .error e := by
  cases hread : p.reread with
  | error e => exact ⟨e, rfl⟩
  | ok q =>
      obtain ⟨nextDue, -, hread⟩ := Except.ok_of_bind hread
      obtain ⟨lastRun, -, hread⟩ := Except.ok_of_bind hread
      obtain ⟨readings, hreadings, -⟩ := Except.ok_of_bind hread
      exact absurd (StoreError.isFinite_of_readReadings hreadings) h

/-- Progress is read from its cells as it was, but for the parts of milliseconds, exactly if
it survives. -/
theorem reread_floorMillis_iff
    (hcodec : ∀ x ∈ p.readings.floats, x.isFinite = true → Decimal.ReadsBack x) :
    p.reread = .ok p.floorMillis ↔ p.Survives := by
  constructor
  · intro h
    have hfinite : ∀ x ∈ p.readings.floats, x.isFinite = true := by
      by_contra hinfinite
      obtain ⟨e, herror⟩ := error_of_not_isFinite hinfinite
      cases h.symm.trans herror
    obtain ⟨nextDue, hnextDue, h⟩ := Except.ok_of_bind h
    obtain ⟨lastRun, hlastRun, h⟩ := Except.ok_of_bind h
    obtain ⟨readings, -, h⟩ := Except.ok_of_bind h
    obtain ⟨rfl, rfl, -, -⟩ := Progress.mk.inj (Except.ok.inj h)
    exact ⟨StoreError.ofTimestamp_floorMillis_iff.1 hnextDue, mapM_lastRun_iff.1 hlastRun, hfinite⟩
  · intro h
    have hreadings : StoreError.readReadings p.readings.text = .ok p.readings :=
      StoreError.readReadings_text fun x hx => ⟨h.readings x hx, hcodec x hx (h.readings x hx)⟩
    rw [reread, StoreError.ofTimestamp_floorMillis_iff.2 h.nextDue, mapM_lastRun_iff.2 h.lastRun,
      hreadings]
    rfl

end Progress

/-- An item with one number among its readings, and not due at a whole millisecond. -/
def Sample.measured (x : Float) : Item :=
  { item with
    progress := { item.progress with
      nextDue := (Time.ofParts? 1 1234567).getD .epoch
      readings := .setNumber .empty "loss" x } }

namespace Database

/-- An item is found, and is in every listing. -/
structure GivesBack (db : Database) (item : Item) : Prop where
  get? : ((Store.get? item.id : Access Database _) db).1 = .ok (some item)
  listed : ∃ items, ((Store.items : Access Database _) db).1 = .ok items ∧ item ∈ items

variable {db : Database} {item? : Uuid → Option Item} {i : Item}

theorem HoldsItems.givesBack_iff (h : db.HoldsItems item?) (hi : item? i.id = some i)
    (hcodec : ∀ x ∈ i.progress.readings.floats, x.isFinite = true → Decimal.ReadsBack x) :
    db.GivesBack { i with progress := i.progress.floorMillis } ↔ i.progress.Survives := by
  have hrow : Item.ofRow i.row = .ok { i with progress := i.progress.floorMillis } ↔
      i.progress.Survives := by
    rw [← Progress.reread_floorMillis_iff hcodec, Item.ofRow_row_eq]
    cases i.progress.reread <;> simp [Except.map]
  have hget := congrArg Prod.fst (h.get? i.id)
  rw [hi, Option.mapM_some] at hget
  rw [← hrow]
  constructor
  · rintro ⟨hfound, -⟩
    have hread := hget.symm.trans hfound
    cases hi : Item.ofRow i.row with
    | error e => simp [hi, Functor.map, Except.map] at hread
    | ok j => simpa [hi, Functor.map, Except.map] using hread
  · intro hread
    obtain ⟨items, hlisted, hmem⟩ := h.items
    refine ⟨?_, items, congrArg Prod.fst hlisted, (hmem _).2 ⟨i, hi, hread⟩⟩
    rw [hget, hread]
    rfl

/-- An item with a number that is not finite cannot be looked up, and no listing has it. -/
theorem HoldsItems.passed_over (h : db.HoldsItems item?) (hi : item? i.id = some i)
    (hinfinite : ¬ ∀ x ∈ i.progress.readings.floats, x.isFinite = true) :
    (∃ reason, ((Store.get? i.id : Access Database _) db).1 = .error (.corrupt reason)) ∧
      ∃ items, ((Store.items : Access Database _) db).1 = .ok items ∧ ∀ j ∈ items, j.id ≠ i.id := by
  obtain ⟨e, herror⟩ := Progress.error_of_not_isFinite hinfinite
  obtain ⟨reason, rfl⟩ := Progress.corrupt_of_reread herror
  have hrow : Item.ofRow i.row = .error (.corrupt reason) := by
    rw [Item.ofRow_row_eq, herror]
    rfl
  constructor
  · refine ⟨reason, ?_⟩
    rw [h.get?, hi, Option.mapM_some, hrow]
    rfl
  · obtain ⟨items, hlisted, hmem⟩ := h.items
    refine ⟨items, congrArg Prod.fst hlisted, fun j hj hid => ?_⟩
    obtain ⟨k, hk, hread⟩ := (hmem j).1 hj
    obtain ⟨hkid, -⟩ := Item.eq_of_ofRow_row hread
    rw [← hkid, hid, hi] at hk
    obtain rfl := Option.some.inj hk
    cases hrow.symm.trans hread

/-- After any operations an item is saved, and it is given back exactly if its progress
survives. If it is there already and its progress is updated, it is given back under the same
condition, with the settings of its latest save. -/
theorem gives_back_iff (ops : List StoreOp) {item : Item}
    (hcodec : ∀ x ∈ item.progress.readings.floats, x.isFinite = true → Decimal.ReadsBack x) :
    let db := StoreOp.final fresh ops
    (∃ after, (Store.save item : Access Database _) db = (.ok (), after) ∧
      (after.GivesBack { item with progress := item.progress.floorMillis } ↔
        item.progress.Survives)) ∧
    ∀ after, (Store.update item : Access Database _) db = (.ok (), after) →
      ∃ settings, StoreOp.latest item.id none fresh ops = some settings ∧
        (after.GivesBack { item with settings, progress := item.progress.floorMillis } ↔
          item.progress.Survives) := by
  intro db
  obtain ⟨c, ⟨⟨item?, hitems, hsettings⟩, -⟩, hlatest⟩ :=
    HoldingStore.exists_holds_final (s := fresh) holds_fresh ops
  constructor
  · obtain ⟨after, hsaved, hafter, -⟩ := hitems.save item
    exact ⟨after, hsaved, hafter.givesBack_iff (Function.update_self ..) hcodec⟩
  · intro after hupdated
    have hmodified : modifyItem item.id (Item.progressRow item.progress) db = (.ok (), after) :=
      hupdated
    rcases hitems.modifyItem_cases item.id (g := fun _ => item.progress)
      (fun r => by simp [Item.progressRow]) (fun i => i.progressRow_row item.progress) with
      ⟨-, hmissing⟩ | ⟨i, written, hi, hdone, hwritten, -⟩
    · cases hmodified.symm.trans hmissing
    · obtain ⟨-, rfl⟩ := Prod.mk.inj (hmodified.symm.trans hdone)
      have hsettled := hlatest item.id
      rw [hsettings, Function.comp_apply, hi, Option.map_some] at hsettled
      refine ⟨i.settings, hsettled.symm, ?_⟩
      have hnow : Function.update item? item.id (some { i with progress := item.progress })
          item.id = some { item with settings := i.settings } := by
        rw [Function.update_self, hitems.id_eq hi]
      exact hwritten.givesBack_iff (i := { item with settings := i.settings }) hnow hcodec

/-- A part of a millisecond is lost, and everything else is given back. -/
theorem gives_back_sample :
    let item := Sample.measured 12.5
    ∃ after, (Store.save item : Access Database _) (StoreOp.final fresh Sample.storeOps) =
        (.ok (), after) ∧
      after.GivesBack { item with progress := item.progress.floorMillis } := by
  intro item
  have hcodec : ∀ x ∈ item.progress.readings.floats, x.isFinite = true → Decimal.ReadsBack x := by
    decide +kernel
  obtain ⟨⟨after, hsaved, hiff⟩, -⟩ := gives_back_iff Sample.storeOps hcodec
  exact ⟨after, hsaved, hiff.2 ⟨by decide, by decide, by decide +kernel⟩⟩

/-- An item with a number that is none is saved; then it is neither found nor listed. -/
theorem not_given_back_sample :
    let item := Sample.measured (0 / 0)
    ∃ after, (Store.save item : Access Database _) fresh = (.ok (), after) ∧
      ((Store.get? item.id : Access Database _) after).1.isOk = false ∧
      ∃ items, ((Store.items : Access Database _) after).1 = .ok items ∧
        ∀ j ∈ items, j.id ≠ item.id := by
  intro item
  obtain ⟨item?, hitems, -⟩ := holds_fresh.items
  obtain ⟨after, hsaved, hafter, -⟩ := hitems.save item
  have hinfinite : ¬ ∀ x ∈ item.progress.readings.floats, x.isFinite = true := by decide +kernel
  obtain ⟨⟨reason, hfound⟩, hlisted⟩ := hafter.passed_over (Function.update_self ..) hinfinite
  exact ⟨after, hsaved, by rw [hfound]; rfl, hlisted⟩

end Database

end Vigil
