import Vigil.Proofs.Reading.RoundTrip
import Vigil.Proofs.Time.Whole
import Vigil.Proofs.Uuid
import Vigil.Store.Rows

/-!
# Rows are read back

The row of an item, a record or an event is read as what was written, if its times are
whole milliseconds and its readings are given back by their text. Numbers of 64 and 32
bits come back whatever they are, and so do all texts and words.
-/

namespace Vigil

namespace Cell

theorem toWord64_ofWord64 (w : UInt64) : toWord64 w.toInt64.toInt = w := by
  have hsigned : w.toInt64.toInt = if 2 * w.toNat < 2 ^ 64 then (w.toNat : Int)
      else w.toNat - (2 ^ 64 : Nat) := BitVec.toInt_eq_toNat_cond _
  have hlt := w.toNat_lt
  apply UInt64.toNat_inj.1
  rw [toWord64, hsigned, UInt64.ofInt, UInt64.toNat_ofNat']
  split <;> omega

theorem toWord32_toNat (w : UInt32) : toWord32 w.toNat = w := by
  have hlt := w.toNat_lt
  apply UInt32.toNat_inj.1
  rw [toWord32, UInt32.ofInt, UInt32.toNat_ofNat']
  omega

theorem ofUuid_beq (u v : Uuid) : (some (ofUuid u) == some (ofUuid v)) = (u == v) := by
  rw [Bool.eq_iff_iff]
  simp only [ofUuid, beq_iff_eq, Option.some.injEq, Cell.text.injEq]
  exact ⟨Uuid.text_injective, congrArg _⟩

end Cell

namespace StoreError

theorem ofTimestamp_millis {t : Time} (h : t.IsWhole) : ofTimestamp t.millis = .ok t := by
  rw [ofTimestamp, Time.ofMillis?_millis h]

theorem readUuid_text (u : Uuid) : readUuid u.text = .ok u := by
  rw [readUuid, Uuid.ofText?_text]

theorem readReadings_text {m : Readings} (h : m.ReadBack) : readReadings m.text = .ok m := by
  rw [readReadings, Readings.ofText?_text h]

theorem isFinite_of_readReadings {m n : Readings} (h : readReadings m.text = .ok n) :
    ∀ x ∈ m.floats, x.isFinite = true := by
  intro x hx
  cases hfinite : x.isFinite with
  | true => rfl
  | false =>
      rw [readReadings, Readings.ofText?_text_eq_none hx hfinite] at h
      cases h

end StoreError

open StoreError

/-- Progress that a row gives back. -/
structure Progress.Storable (p : Progress) : Prop where
  nextDue : p.nextDue.IsWhole
  lastRun : ∀ t ∈ p.lastRun, t.IsWhole
  readings : p.readings.ReadBack

/-- The progress that the cells of a row are read as. -/
def Progress.reread (p : Progress) : Except StoreError Progress := do
  let nextDue ← ofTimestamp p.nextDue.millis
  let lastRun ← (p.lastRun.map Time.millis).mapM ofTimestamp
  let readings ← readReadings p.readings.text
  return { p with nextDue, lastRun, readings }

theorem Progress.Storable.reread {p : Progress} (h : p.Storable) : p.reread = .ok p := by
  have hlastRun : (p.lastRun.map Time.millis).mapM ofTimestamp = .ok p.lastRun := by
    cases heq : p.lastRun with
    | none => rfl
    | some t =>
        simp only [Option.map_some, Option.mapM_some, ofTimestamp_millis (h.lastRun t heq)]
        rfl
  rw [Progress.reread, ofTimestamp_millis h.nextDue, hlastRun, readReadings_text h.readings]
  rfl

/-- A record that a row gives back. -/
structure HistoryRecord.Storable (r : HistoryRecord) : Prop where
  time : r.time.IsWhole
  readings : r.readings.ReadBack

namespace Item

/-- A row gives its item back, with the progress that is read from its last cells. -/
theorem ofRow_row_eq (i : Item) :
    ofRow i.row = i.progress.reread.map fun progress => { i with progress } := by
  obtain ⟨id, ⟨node, name, probe, target, params, mode, script, interval, timeout, retry, level,
    logMode, enabled⟩, ⟨nextDue, lastRun, readings, state⟩⟩ := i
  have hlastRun : (Cell.ofOption (lastRun.map Time.millis)).optionalInteger? =
      .ok (lastRun.map Time.millis) := by
    cases lastRun <;> rfl
  have henabled : ((if enabled then 1 else 0 : Int) != 0) = enabled := by
    cases enabled <;> rfl
  simp only [ofRow, row, Cell.ofUuid, Cell.ofTime, Cell.ofWord64, Cell.ofBool, Cell.text?,
    Cell.integer?, hlastRun, readUuid_text, readWord, Level.ofWord_word, LogMode.ofWord_word,
    HealthState.ofWord_word, bind, Except.bind, pure, Except.pure, Cell.toWord64_ofWord64,
    Cell.toWord32_toNat, henabled, Progress.reread]
  cases ofTimestamp nextDue.millis with
  | error e => rfl
  | ok nextDue =>
      cases (lastRun.map Time.millis).mapM ofTimestamp with
      | error e => rfl
      | ok lastRun => cases readReadings readings.text <;> rfl

theorem ofRow_row {i : Item} (h : i.progress.Storable) : ofRow i.row = .ok i := by
  rw [ofRow_row_eq, h.reread]
  rfl

@[simp] theorem progressRow_row (i : Item) (p : Progress) :
    progressRow p i.row = { i with progress := p }.row := rfl

@[simp] theorem scheduleRow_row (i : Item) (nextDue : Time) (lastRun : Option Time) :
    scheduleRow nextDue lastRun i.row =
      { i with progress := { i.progress with nextDue, lastRun } }.row := rfl

theorem holds_row (i : Item) (id : Uuid) :
    Table.holds 0 (.ofUuid id) i.row = (i.id == id) :=
  Cell.ofUuid_beq i.id id

end Item

theorem HistoryRecord.holds_cells (n : Int) (r : HistoryRecord) (id : Uuid) :
    Table.holds 1 (.ofUuid id) (.integer n :: r.cells) = (r.item == id) :=
  Cell.ofUuid_beq r.item id

theorem HistoryRecord.ofRow_cells {r : HistoryRecord} (h : r.Storable) (number : Cell) :
    ofRow r.item (number :: r.cells) = .ok r := by
  simp only [ofRow, cells, Cell.ofTime, Cell.text?, Cell.integer?, ofTimestamp_millis h.time,
    readWord, HealthState.ofWord_word, readReadings_text h.readings, bind, Except.bind, pure,
    Except.pure]

theorem Event.ofRow_cells {e : Event} (h : e.time.IsWhole) (number : Cell) :
    ofRow (number :: e.cells) = .ok e := by
  simp only [ofRow, cells, Cell.ofUuid, Cell.ofTime, Cell.text?, Cell.integer?,
    ofTimestamp_millis h, readUuid_text, bind, Except.bind, pure, Except.pure]

end Vigil
