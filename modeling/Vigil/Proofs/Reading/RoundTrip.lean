import Vigil.Proofs.Json.RoundTrip
import Vigil.Reading.Codec

/-!
# Readings are read back

Readings are kept as the text of a JSON object. The text gives the same readings back,
if every number among them is finite and its own numeral is read as this number
(`ofText?_text`). The second is not so of all doubles: the quick reading of numerals can
miss the nearest double by a place. If a number is not finite nothing is read back
(`ofText?_text_eq_none`).
-/

namespace Vigil

/-- A double that its numeral is read as. -/
def Decimal.ReadsBack (x : Float) : Prop :=
  (Layout.json.numeral (shortest x)).toFloat? = some x

/-- The numeral of a double is read as the double. -/
instance (x : Float) : Decidable (Decimal.ReadsBack x) :=
  inferInstanceAs (Decidable (_ = _))

theorem Decimal.isNaN_or_isInf (x : Float) : (x.isNaN || x.isInf) = !x.isFinite := by
  have hunpacked (u : Float.Model.UnpackedFloat) : (u.isNaN || u.isInf) = !u.isFinite := by
    cases u <;> rfl
  exact hunpacked x.toModel.unpack

theorem Json.ofFloat_of_isFinite {x : Float} (h : x.isFinite = true) :
    Json.ofFloat x = .number (Decimal.Layout.json.numeral (Decimal.shortest x)) := by
  rw [Json.ofFloat, Decimal.isNaN_or_isInf, h]
  rfl

theorem Json.ofFloat_of_not_isFinite {x : Float} (h : x.isFinite = false) :
    Json.ofFloat x = .null := by
  rw [Json.ofFloat, Decimal.isNaN_or_isInf, h]
  rfl

namespace Reading

/-- The number that a reading is, if it is one. -/
def float? : Reading → Option Float
  | number x => some x
  | text _ => none

theorem writable_json (r : Reading) : r.json.Writable := by
  cases r with
  | number x =>
      simp only [json, Json.ofFloat]
      split
      · exact .null
      · exact .number (Decimal.wellFormed_shortest _ x)
  | text s => exact .text s

theorem ofJson?_json {r : Reading}
    (h : ∀ x ∈ r.float?, x.isFinite = true ∧ Decimal.ReadsBack x) : ofJson? r.json = some r := by
  cases r with
  | number x =>
      obtain ⟨hfinite, hback⟩ := h x rfl
      rw [json, Json.ofFloat_of_isFinite hfinite, ofJson?, hback]
      rfl
  | text s => rfl

theorem ofJson?_json_of_not_isFinite {r : Reading} {x : Float} (hx : x ∈ r.float?)
    (h : x.isFinite = false) : ofJson? r.json = none := by
  cases r with
  | number y =>
      obtain rfl : y = x := Option.some.inj hx
      rw [json, Json.ofFloat_of_not_isFinite h]
      rfl
  | text s => cases hx

end Reading

namespace Readings

/-- The numbers among readings. -/
def floats (m : Readings) : List Float := m.toList.filterMap fun (_, r) => r.float?

/-- Readings whose text gives them back. -/
def ReadBack (m : Readings) : Prop := ∀ x ∈ m.floats, x.isFinite = true ∧ Decimal.ReadsBack x

instance (m : Readings) : Decidable m.ReadBack :=
  inferInstanceAs (Decidable (∀ x ∈ m.floats, _))

theorem writable_json (m : Readings) : m.json.Writable := by
  refine .object ?_
  intro f hf
  obtain ⟨⟨key, r⟩, -, rfl⟩ := List.mem_map.1 hf
  exact r.writable_json

/-- The map of the entries of a map is this map. -/
theorem insertMany_toList (m : Readings) : empty.insertMany m.toList = m := by
  refine Std.ExtTreeMap.ext_getElem? fun key => ?_
  cases h : m[key]? with
  | some r =>
      have hmem : (key, r) ∈ m.toList := Std.ExtTreeMap.mem_toList_iff_getElem?_eq_some.2 h
      exact Std.ExtTreeMap.getElem?_insertMany_list_of_mem Std.ReflOrd.compare_self
        Std.ExtTreeMap.distinct_keys_toList hmem
  | none =>
      have hkeys : (m.toList.map Prod.fst).contains key = false := by
        rw [Std.ExtTreeMap.map_fst_toList_eq_keys, Std.ExtTreeMap.contains_keys]
        rw [← Std.ExtTreeMap.isSome_getElem?_eq_contains, h]
        rfl
      rw [Std.ExtTreeMap.getElem?_insertMany_list_of_contains_eq_false hkeys]
      simp [empty]

/-- The fields of readings are read one after another. -/
theorem foldlM_fields {entries : List (String × Reading)}
    (h : ∀ e ∈ entries, Reading.ofJson? e.2.json = some e.2) (m : Readings) :
    (entries.map fun (key, r) => (key, r.json)).foldlM
      (fun (m : Readings) (key, v) => (Reading.ofJson? v).map fun r => m.insert key r) m =
        some (m.insertMany entries) := by
  induction entries generalizing m with
  | nil => simp
  | cons e entries ih =>
      obtain ⟨key, r⟩ := e
      have hfirst : Reading.ofJson? r.json = some r := h (key, r) List.mem_cons_self
      have hrest := ih (fun f hf => h f (List.mem_cons_of_mem _ hf)) (m.insert key r)
      rw [List.map_cons, List.foldlM_cons, Std.ExtTreeMap.insertMany_cons]
      simp only [hfirst, Option.map_some, Option.bind_eq_bind, Option.bind_some]
      exact hrest

theorem ofJson?_json {m : Readings} (h : m.ReadBack) : ofJson? m.json = some m := by
  have hentries : ∀ e ∈ m.toList, Reading.ofJson? e.2.json = some e.2 := by
    intro e he
    refine Reading.ofJson?_json fun x hx => h x ?_
    exact List.mem_filterMap.2 ⟨e, he, hx⟩
  have hread := foldlM_fields hentries empty
  rw [insertMany_toList] at hread
  exact hread

/-- Readings are read as they were written. -/
theorem ofText?_text {m : Readings} (h : m.ReadBack) : ofText? m.text = some m := by
  rw [ofText?, text, Json.parse?_compact m.writable_json, Option.bind_some, ofJson?_json h]

/-- One field that cannot be read is enough. -/
theorem foldlM_fields_eq_none {entries : List (String × Reading)} {e : String × Reading}
    (he : e ∈ entries) (h : Reading.ofJson? e.2.json = none) (m : Readings) :
    (entries.map fun (key, r) => (key, r.json)).foldlM
      (fun (m : Readings) (key, v) => (Reading.ofJson? v).map fun r => m.insert key r) m =
        none := by
  induction entries generalizing m with
  | nil => cases he
  | cons f entries ih =>
      rw [List.map_cons, List.foldlM_cons]
      rcases List.mem_cons.1 he with rfl | hrest
      · simp only [h, Option.map_none]
        rfl
      · cases hf : Reading.ofJson? f.2.json with
        | none => simp only [hf, Option.map_none]; rfl
        | some r =>
            simp only [hf, Option.map_some]
            exact ih hrest _

/-- A number that is not finite is written as null, and then nothing is read back. -/
theorem ofText?_text_eq_none {m : Readings} {x : Float} (hx : x ∈ m.floats)
    (h : x.isFinite = false) : ofText? m.text = none := by
  obtain ⟨e, he, hfloat⟩ := List.mem_filterMap.1 hx
  have hread := foldlM_fields_eq_none he (Reading.ofJson?_json_of_not_isFinite hfloat h) empty
  rw [ofText?, text, Json.parse?_compact m.writable_json, Option.bind_some]
  exact hread

end Readings

end Vigil
