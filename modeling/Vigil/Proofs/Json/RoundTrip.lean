import Vigil.Json.Reader
import Vigil.Proofs.Json.Tokens

/-!
# What is written is read back

The reading of a document takes a value where one is expected to the position after
that value, whatever is still open around it (`run?_tokens`). With the tokens of a
written value this gives its round trip (`parse?_compact`).
-/

namespace Vigil.Json

namespace Position

/-- Where the first member of an array may stand, a value is read as anywhere else. -/
theorem run?_firstItem {v : Json} (h : v.Writable) (frames : List Frame) (done : Option Json)
    (rest : List Token) :
    run? ⟨.firstItem, frames, done⟩ (v.tokens ++ rest) =
      run? ⟨.value, frames, done⟩ (v.tokens ++ rest) := by
  cases h <;> rfl

theorem run?_items {items : List Json}
    (h : ∀ v ∈ items, ∀ frames done,
      run? ⟨.value, frames, done⟩ v.tokens = some (complete ⟨.next, frames, none⟩ v))
    (hne : items ≠ []) (before : List Json) (frames : List Frame) (done : Option Json) :
    run? ⟨.value, .array before :: frames, done⟩ (itemTokens items) =
      some ⟨.next, .array (items.reverse ++ before) :: frames, none⟩ := by
  induction items generalizing before done with
  | nil => exact absurd rfl hne
  | cons v rest ih =>
      have hv := h v List.mem_cons_self
      cases rest with
      | nil => exact hv _ _
      | cons w rest =>
          have hrest := ih (fun u hu => h u (List.mem_cons_of_mem v hu)) (by simp)
            (v :: before) none
          have hcomma : run? ⟨.next, .array (v :: before) :: frames, none⟩
              (.comma :: itemTokens (w :: rest)) =
                run? ⟨.value, .array (v :: before) :: frames, none⟩ (itemTokens (w :: rest)) := rfl
          rw [itemTokens, run?_append, hv, Option.bind_some]
          refine (hcomma.trans hrest).trans ?_
          simp

theorem run?_fields {fields : List (String × Json)}
    (h : ∀ f ∈ fields, ∀ frames done,
      run? ⟨.value, frames, done⟩ f.2.tokens = some (complete ⟨.next, frames, none⟩ f.2))
    (hne : fields ≠ []) {e : Expecting} (he : e = .firstName ∨ e = .name)
    (before : List (Option String × Json)) (frames : List Frame) (done : Option Json) :
    run? ⟨e, .object before none :: frames, done⟩ (fieldTokens fields) =
      some ⟨.next, .object ((fields.map fun f => (some f.1, f.2)).reverse ++ before) none :: frames,
        none⟩ := by
  induction fields generalizing e before done with
  | nil => exact absurd rfl hne
  | cons f rest ih =>
      obtain ⟨name, v⟩ := f
      have hv := h (name, v) List.mem_cons_self (.object before (some name) :: frames) none
      have hname (ts : List Token) : run? ⟨e, .object before none :: frames, done⟩
          (.text (some name) :: .colon :: ts) =
            run? ⟨.value, .object before (some name) :: frames, none⟩ ts := by
        rcases he with rfl | rfl <;> rfl
      cases rest with
      | nil => exact (hname _).trans hv
      | cons w rest =>
          have hrest := ih (fun u hu => h u (List.mem_cons_of_mem _ hu)) (by simp) (.inr rfl)
            ((some name, v) :: before) none
          rw [fieldTokens, List.cons_append, List.cons_append, hname, run?_append, hv,
            Option.bind_some]
          refine (Eq.trans rfl hrest).trans ?_
          simp

/-- The fields of an object that was read, if all of its names are readable. -/
theorem objectOf_reverse (fields : List (String × Json)) :
    objectOf (fields.map fun f => (some f.1, f.2)).reverse = .object fields := by
  have hnames (read : Option String × Json → Option (String × Json))
      (hread : ∀ f, read (some f.1, f.2) = some f) :
      (fields.map fun f => (some f.1, f.2)).mapM read = some fields := by
    induction fields with
    | nil => rfl
    | cons f rest ih => simp [hread, ih]
  rw [objectOf, List.reverse_reverse, hnames _ fun _ => rfl]

/-- Where a value is expected, a written value is read as a whole. -/
theorem run?_tokens {v : Json} (h : v.Writable) (frames : List Frame) (done : Option Json) :
    run? ⟨.value, frames, done⟩ v.tokens = some (complete ⟨.next, frames, none⟩ v) := by
  induction h generalizing frames done with
  | null => rfl
  | bool b => rfl
  | number hn => rfl
  | text s => rfl
  | @array items hitems ih =>
      have hopen : run? ⟨.value, frames, done⟩ (tokens (.array items)) =
          run? ⟨.firstItem, .array [] :: frames, none⟩ (itemTokens items ++ [.closeArray]) := rfl
      rw [hopen]
      cases items with
      | nil => rfl
      | cons v rest =>
          have hfirst : run? ⟨.firstItem, .array [] :: frames, none⟩
              (itemTokens (v :: rest) ++ [.closeArray]) =
                run? ⟨.value, .array [] :: frames, none⟩
                  (itemTokens (v :: rest) ++ [.closeArray]) := by
            have hv := hitems v List.mem_cons_self
            cases rest with
            | nil => exact run?_firstItem hv _ _ _
            | cons w rest =>
                rw [itemTokens, List.append_assoc]
                exact run?_firstItem hv _ _ _
          rw [hfirst, run?_append, run?_items ih (by simp), Option.bind_some]
          simp [run?_cons, step?, close?]
  | @object fields hfields ih =>
      have hopen : run? ⟨.value, frames, done⟩ (tokens (.object fields)) =
          run? ⟨.firstName, .object [] none :: frames, none⟩
            (fieldTokens fields ++ [.closeObject]) := rfl
      rw [hopen]
      cases fields with
      | nil => rfl
      | cons f rest =>
          rw [run?_append, run?_fields ih (by simp) (.inl rfl), Option.bind_some, List.append_nil]
          simp only [run?_cons, step?, close?, objectOf_reverse, Option.bind_some, run?_nil]

end Position

/-- A value that can be written and read back is read as it was written. -/
theorem parse?_compact {v : Json} (h : v.Writable) : parse? v.compact = some v := by
  rw [parse?, compact, String.toList_ofList, tokens?_chars h, Option.bind_some, ofTokens?,
    Position.start, Position.run?_tokens h]
  rfl

end Vigil.Json
