import Mathlib.Data.List.Nodup
import Vigil.Proofs.Files.Tree
import Vigil.Proofs.Reading.RoundTrip
import Vigil.Proofs.Time.Text
import Vigil.Proofs.Uuid
import Vigil.Record.ResultFile

/-!
# Lines of results

A snapshot is read from its line as it was. The line ends at its first line end, because line ends
within texts and names are escaped.
-/

namespace Vigil

/-! ### Records in JSON -/

namespace Json

/-- Names that differ lead to the values beside them. -/
theorem map_lookup_zip {names : List String} {values : List Json} (hnodup : names.Nodup)
    (hlength : names.length = values.length) :
    names.map (fun name => (names.zip values).lookup name) = values.map some := by
  induction names generalizing values with
  | nil =>
      rw [List.eq_nil_of_length_eq_zero hlength.symm]
      rfl
  | cons name names ih =>
      cases values with
      | nil => cases hlength
      | cons v values =>
          obtain ⟨hname, hnodup⟩ := List.nodup_cons.1 hnodup
          have hrest := ih hnodup (Nat.succ.inj hlength)
          have hskip : names.map (fun other => ((name, v) :: names.zip values).lookup other) =
              names.map fun other => (names.zip values).lookup other := by
            refine List.map_congr_left fun other hother => ?_
            have hne : (other == name) = false :=
              beq_eq_false_iff_ne.2 fun heq => hname (heq ▸ hother)
            rw [List.lookup_cons, hne]
          rw [List.zip_cons_cons, List.map_cons, List.map_cons, List.lookup_cons_self, hskip, hrest]

/-- The fields of a record are found by their names, each one once. -/
theorem fields?_zip {names : List String} {values : List Json} (hnodup : names.Nodup)
    (hlength : names.length = values.length) :
    (object (names.zip values)).fields? names = some (values.map some) := by
  have hkeys : (names.zip values).map Prod.fst = names :=
    List.map_fst_zip (Nat.le_of_eq hlength)
  have honce : (names.all fun name =>
      ((names.zip values).filter (·.1 == name)).length ≤ 1) = true := by
    rw [List.all_eq_true]
    intro name _
    have hcount : ((names.zip values).map Prod.fst).count name =
        ((names.zip values).filter (·.1 == name)).length := by
      rw [← List.countP_eq_length_filter, List.count, List.countP_map]
      rfl
    rw [← hcount, hkeys, decide_eq_true_iff]
    exact List.nodup_iff_count_le_one.1 hnodup name
  rw [fields?, if_pos honce]
  exact congrArg some (map_lookup_zip hnodup hlength)

/-! ### Values without line ends -/

theorem lineEnd_not_mem_escapeChar (c : Char) : '\n' ∉ escapeChar c := by
  have hdigit : ∀ n < 16, '\n' ≠ Nat.digitChar n := by decide
  unfold escapeChar
  iterate 7
    split
    · simp
  split
  · next hcontrol =>
    have hhigh := hdigit (c.toNat / 16) (by omega)
    have hlow := hdigit (c.toNat % 16) (by omega)
    simp [hhigh, hlow]
  · next hlineEnd _ _ _ =>
    simpa using Ne.symm hlineEnd

theorem lineEnd_not_mem_quote (s : String) : '\n' ∉ quote s := by
  have hescaped : '\n' ∉ s.toList.flatMap escapeChar := by
    rw [List.mem_flatMap]
    rintro ⟨c, -, hc⟩
    exact lineEnd_not_mem_escapeChar c hc
  simp [quote, hescaped]

theorem lineEnd_not_mem_text {n : Decimal.Numeral} (h : n.WellFormed) : '\n' ∉ n.text := by
  have hdigit {digits : List Char} (hdigits : ∀ c ∈ digits, c.isDigit = true) :
      '\n' ∉ digits := by
    intro hmem
    cases hdigits _ hmem
  have hwhole := hdigit h.isDigit_whole
  have hfraction := hdigit h.isDigit_fraction
  have hexponent : '\n' ∉ Decimal.Numeral.exponentText n.exponent := by
    cases n.exponent with
    | none => simp [Decimal.Numeral.exponentText]
    | some e =>
        have hdigits : '\n' ∉ Nat.toDigits 10 e.natAbs :=
          hdigit fun _ => Decimal.isDigit_of_mem_toDigits
        by_cases hnegative : e < 0 <;> simp [Decimal.Numeral.exponentText, hnegative, hdigits]
  have hsign : '\n' ∉ (if n.negative then ['-'] else [] : List Char) := by
    cases n.negative <;> simp
  have hpoint : '\n' ∉ (if n.fraction.isEmpty then [] else '.' :: n.fraction : List Char) := by
    cases n.fraction.isEmpty <;> simp [hfraction]
  simp only [Decimal.Numeral.text, List.mem_append, not_or]
  exact ⟨⟨⟨hsign, hwhole⟩, hpoint⟩, hexponent⟩

theorem lineEnd_not_mem_itemChars {items : List Json} (h : ∀ v ∈ items, '\n' ∉ v.chars) :
    '\n' ∉ itemChars items := by
  induction items with
  | nil => simp [itemChars]
  | cons v rest ih =>
      have hv := h v List.mem_cons_self
      cases rest with
      | nil => exact hv
      | cons w rest =>
          have hrest := ih fun u hu => h u (List.mem_cons_of_mem v hu)
          simp [itemChars, hv, hrest]

theorem lineEnd_not_mem_fieldChars {fields : List (String × Json)}
    (h : ∀ f ∈ fields, '\n' ∉ f.2.chars) : '\n' ∉ fieldChars fields := by
  induction fields with
  | nil => simp [fieldChars]
  | cons f rest ih =>
      obtain ⟨name, v⟩ := f
      have hname := lineEnd_not_mem_quote name
      have hv : '\n' ∉ v.chars := h (name, v) List.mem_cons_self
      cases rest with
      | nil => simp [fieldChars, hname, hv]
      | cons w rest =>
          have hrest := ih fun u hu => h u (List.mem_cons_of_mem _ hu)
          simp [fieldChars, hname, hv, hrest]

/-- A value is written on one line. -/
theorem lineEnd_not_mem_chars {v : Json} (h : v.Writable) : '\n' ∉ v.chars := by
  induction h with
  | null => simp [chars]
  | bool b => cases b <;> simp [chars]
  | number hn => exact lineEnd_not_mem_text hn
  | text s => exact lineEnd_not_mem_quote s
  | array _ ih => simp [chars, lineEnd_not_mem_itemChars ih]
  | object _ ih => simp [chars, lineEnd_not_mem_fieldChars ih]

end Json

namespace Snapshot

variable {x : Snapshot}

theorem writable_json (x : Snapshot) : x.json.Writable := by
  refine .object ?_
  intro f hf
  simp only [fieldNames, List.zip_cons_cons, List.zip_nil_left, List.mem_cons,
    List.not_mem_nil, or_false] at hf
  rcases hf with rfl | rfl | rfl | rfl | rfl | rfl | rfl | rfl
  case inr.inr.inr.inr.inr.inr.inr => exact x.readings.writable_json
  all_goals exact .text _

/-- A snapshot of a time that there is, with numbers that are read back. -/
structure ReadBack (x : Snapshot) : Prop where
  time : x.time.WellFormed
  readings : x.readings.ReadBack

theorem ofJson?_json (h : x.ReadBack) : ofJson? x.json = some x := by
  have hmode : Json.logMode? (.text x.logMode.word) = some x.logMode := by
    cases x.logMode <;> rfl
  have hstate : Json.state? (.text x.state.word) = some x.state := by
    rw [Json.state?, Json.text?, Option.bind_some, HealthState.ofWord_word]
    rfl
  have htime : Json.time? (.text x.time.text) = some x.time := by
    rw [Json.time?, Json.text?, Option.bind_some, Time.ofText?_text h.time]
  have huuid (u : Uuid) : Json.uuid? (.text u.text) = some u := by
    rw [Json.uuid?, Json.text?, Option.bind_some, Uuid.ofText?_text]
  have hreadings : Readings.ofJson? x.readings.json = some x.readings :=
    Readings.ofJson?_json h.readings
  rw [ofJson?, json, Json.fields?_zip (by decide) rfl]
  simp only [List.map_cons, List.map_nil, Option.bind_eq_bind, Option.bind_some, huuid, hmode,
    htime, hstate, hreadings, Json.text?]
  rfl

end Snapshot

/-! ### Octets of lines -/

namespace ResultFile

/-- The octet that ends a line. -/
def lineEnd : UInt8 := 10

/-- The octets of a snapshot's line. -/
def lineOctets (x : Snapshot) : List UInt8 := (line x).toUTF8.toList

/-- The octets of a snapshot's document, which its line end follows. -/
def document (x : Snapshot) : List UInt8 := x.json.compact.toUTF8.toList

/-- The snapshot that octets are a document of. -/
def snapshot? (octets : List UInt8) : Option Snapshot :=
  (String.fromUTF8? ⟨octets.toArray⟩).bind fun text => (Json.parse? text).bind Snapshot.ofJson?

theorem lineOctets_eq (x : Snapshot) : lineOctets x = document x ++ [lineEnd] := by
  rw [lineOctets, line, toList_toUTF8, String.toList_append, List.flatMap_append, document,
    toList_toUTF8]
  rfl

theorem lineEnd_not_mem_document (x : Snapshot) : lineEnd ∉ document x := by
  rw [document, toList_toUTF8, Json.compact, String.toList_ofList, List.mem_flatMap]
  rintro ⟨c, hc, hoctet⟩
  rw [eq_lineEnd_of_mem_utf8EncodeChar hoctet] at hc
  exact Json.lineEnd_not_mem_chars x.writable_json hc

theorem snapshot?_document {x : Snapshot} (h : x.ReadBack) : snapshot? (document x) = some x := by
  rw [snapshot?, document, fromUTF8?_toUTF8, Option.bind_some, Json.parse?_compact x.writable_json,
    Option.bind_some, Snapshot.ofJson?_json h]

/-- Lines come apart at their ends into the documents, and nothing follows the last end. -/
theorem splitOn_lines (xs : List Snapshot) :
    (xs.flatMap lineOctets).splitOn lineEnd = xs.map document ++ [[]] := by
  induction xs with
  | nil => rfl
  | cons x xs ih =>
      rw [List.flatMap_cons, lineOctets_eq, List.append_assoc, List.singleton_append,
        List.splitOn_append_cons_self_of_not_mem (lineEnd_not_mem_document x), ih]
      rfl

end ResultFile

end Vigil
