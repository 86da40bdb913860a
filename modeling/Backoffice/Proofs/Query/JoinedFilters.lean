import Mathlib
import Backoffice.Proofs.Query.CodedFilters

/-!
# Filters of arrays in a row

The filters of two JSON arrays in a row are those of the first and then those of the second; if an array is
refused, both in a row are refused for the same reason, and the first array decides if both are:
`areDecodedInRow_of_carries`.  So the items are judged one by one.  One that selects nothing is left out
after it was judged, and a bad one refuses the whole wherever it stands.
-/

namespace Backoffice

open Form (Checked)
open Text.Percent (encode quote)

/-- The raw text of a request carries the items: it is a JSON text of the array, in percent coding or without
a percent sign. -/
inductive Carries (items : List Json) : String → Prop
  | encoded {text : String} (array : Json.parse? text.toList = some (.arr items)) :
      Carries items (encode text)
  | quoted {text : String} (array : Json.parse? text.toList = some (.arr items)) :
      Carries items (quote text)
  | plain {text : String} (array : Json.parse? text.toList = some (.arr items))
      (no_percent : '%' ∉ text.toList) : Carries items text

namespace Carries

variable {kind : FilterKind} {items others : List Json} {raw raw' : String}

/-- The array has a JSON text. -/
theorem exists_text (h : Carries items raw) : ∃ text : String, Json.parse? text.toList = some (.arr items) := by
  cases h with
  | encoded array => exact ⟨_, array⟩
  | quoted array => exact ⟨_, array⟩
  | plain array _ => exact ⟨_, array⟩

/-- The items that a raw text carries are read from it. -/
theorem items_eq (h : Carries items raw) : kind.items (some raw) = .ok items := by
  cases h with
  | encoded array => rw [FilterKind.items_encode, FilterKind.itemsOf_strip array]
  | quoted array => rw [FilterKind.items_quote, FilterKind.itemsOf_strip array]
  | plain array no_percent => rw [FilterKind.items_of_plain no_percent, FilterKind.itemsOf_strip array]

/-- Items of which nothing is lost are carried by their coded array. -/
theorem of_isExact (hexact : ∀ v ∈ items, v.IsExact) : Carries items (coded (.arr items)) :=
  .quoted (Json.parse?_render_arr hexact)

/-- Two arrays that are carried by texts are carried in a row by a text. -/
theorem exists_append (h : Carries items raw) (h' : Carries others raw') :
    ∃ joined, Carries (items ++ others) joined := by
  obtain ⟨text, htext⟩ := h.exists_text
  obtain ⟨text', htext'⟩ := h'.exists_text
  obtain ⟨cs, hcs⟩ := Json.exists_parse?_append htext htext'
  rw [← String.toList_ofList (l := cs)] at hcs
  exact ⟨_, .encoded hcs⟩

end Carries

/-! ### Items one by one -/

/-- The filters of a coded text that are to be kept. -/
def decodeFilters {α : Type} (kind : FilterKind) (reason : BadFilter)
    (read : List (String × Json) → Checked α) (keep : α → Bool) (raw : Option String) :
    Except Refusal (List α) := do
  let items ← kind.items raw
  let filters ← items.mapM (decodeItem kind reason read)
  return filters.filter keep

/-- Equality filters are kept if they have a value. -/
theorem decodeEqualityFilters_eq : decodeEqualityFilters =
    decodeFilters .lookups .invalidFilter EqualityFilter.read EqualityFilter.isSet := rfl

/-- Date range filters are kept if they select something. -/
theorem decodeDateRanges_eq : decodeDateRanges =
    decodeFilters .ranges .invalidRange DateRangeFilter.read DateRangeFilter.isApplicable := rfl

/-- The raw text `joined` carries the items, which those of `first` and `second` are in a row, and is decoded
so: to the filters of both, or to the refusal of the first that is refused, as a bad request.  The filters
are there exactly if all items are such. -/
structure AreDecodedInRow {α : Type} (read : List (String × Json) → Checked α)
    (decode : Option String → Except Refusal (List α)) (items : List Json) (first second joined : String) :
    Prop where
  ok_iff : ∀ filters, decode (some joined) = .ok filters ↔ ∃ front back,
    decode (some first) = .ok front ∧ decode (some second) = .ok back ∧ filters = front ++ back
  error_iff : ∀ r, decode (some joined) = .error r ↔ decode (some first) = .error r ∨
    (∃ front, decode (some first) = .ok front) ∧ decode (some second) = .error r
  status_eq : ∀ r, decode (some joined) = .error r → r.status = 400
  exists_ok_iff : (∃ filters, decode (some joined) = .ok filters) ↔
    ∀ v ∈ items, ∃ fields f, v = .obj fields ∧ read fields = .ok f

variable {α : Type} {kind : FilterKind} {reason : BadFilter} {read : List (String × Json) → Checked α}
  {keep : α → Bool} {items others : List Json} {raw first second joined : String}

/-- An item is a filter exactly if it is an object of the fields of one. -/
theorem decodeItem_eq_ok_iff {v : Json} {f : α} :
    decodeItem kind reason read v = .ok f ↔ ∃ fields, v = .obj fields ∧ read fields = .ok f := by
  unfold decodeItem
  split
  · rename_i fields
    cases hread : read fields with
    | ok g => simp [hread]
    | failed errors => simp [hread]
  · rename_i hnot
    constructor
    · rintro ⟨⟩
    · rintro ⟨fields, rfl, -⟩
      exact absurd rfl (hnot fields)

/-- The filters of a text are those of the items that it carries. -/
theorem decodeFilters_of_carries (h : Carries items raw) :
    decodeFilters kind reason read keep (some raw) =
      (items.mapM (decodeItem kind reason read)).map (·.filter keep) := by
  unfold decodeFilters
  rw [h.items_eq, ok_bind]
  cases items.mapM (decodeItem kind reason read) <;> rfl

/-- The filters of arrays in a row are decoded array by array. -/
theorem decodeFilters_append (hfirst : Carries items first) (hsecond : Carries others second)
    (hjoined : Carries (items ++ others) joined) :
    decodeFilters kind reason read keep (some joined) = (do
      let front ← decodeFilters kind reason read keep (some first)
      let back ← decodeFilters kind reason read keep (some second)
      return front ++ back) := by
  rw [decodeFilters_of_carries hfirst, decodeFilters_of_carries hsecond, decodeFilters_of_carries hjoined,
    List.mapM_append]
  cases items.mapM (decodeItem kind reason read) with
  | error r => rfl
  | ok front =>
    cases others.mapM (decodeItem kind reason read) with
    | error r => rfl
    | ok back => exact congrArg Except.ok (List.filter_append front back)

/-- The filters of a text are there exactly if all items that it carries are filters. -/
theorem exists_decodeFilters_eq_ok_iff (h : Carries items raw) :
    (∃ filters, decodeFilters kind reason read keep (some raw) = .ok filters) ↔
      ∀ v ∈ items, ∃ fields f, v = .obj fields ∧ read fields = .ok f := by
  have hitems : (∀ v ∈ items, ∃ fields f, v = .obj fields ∧ read fields = .ok f) ↔
      ∀ v ∈ items, ∃ f, decodeItem kind reason read v = .ok f := by
    refine forall₂_congr fun v _ => ?_
    rw [exists_comm]
    exact exists_congr fun f => decodeItem_eq_ok_iff.symm
  rw [hitems, ← exists_mapM_eq_ok_iff, decodeFilters_of_carries h]
  cases items.mapM (decodeItem kind reason read) with
  | error r => simp [Except.map]
  | ok filters => simp [Except.map]

/-- Filters of arrays in a row are those of the first array and then those of the second. -/
theorem areDecodedInRow_decodeFilters (hfirst : Carries items first) (hsecond : Carries others second)
    (hjoined : Carries (items ++ others) joined) :
    AreDecodedInRow read (decodeFilters kind reason read keep) (items ++ others) first second joined where
  ok_iff := by
    intro filters
    rw [decodeFilters_append hfirst hsecond hjoined]
    simp only [bind_eq_ok_iff, pure_eq_ok_iff]
    constructor
    · rintro ⟨front, hfront, back, hback, rfl⟩
      exact ⟨front, back, hfront, hback, rfl⟩
    · rintro ⟨front, back, hfront, hback, rfl⟩
      exact ⟨front, hfront, back, hback, rfl⟩
  error_iff := by
    intro r
    rw [decodeFilters_append hfirst hsecond hjoined, bind_eq_error_iff]
    refine or_congr_right ?_
    constructor
    · rintro ⟨front, hfront, hback⟩
      rcases bind_eq_error_iff.mp hback with hback | ⟨back, -, hpure⟩
      · exact ⟨⟨front, hfront⟩, hback⟩
      · cases hpure
    · rintro ⟨⟨front, hfront⟩, hback⟩
      exact ⟨front, hfront, bind_eq_error_iff.mpr (Or.inl hback)⟩
  status_eq := by
    intro r hr
    obtain ⟨reason, rfl⟩ := exists_badFilter_of_decode (fun _ _ => exists_badFilter_of_decodeItem) hr
    rfl
  exists_ok_iff := exists_decodeFilters_eq_ok_iff hjoined

/-- Equality filters and date ranges of two JSON arrays in a row are decoded array by array.  There is a text
of both arrays in a row, and every such text is decoded so. -/
theorem areDecodedInRow_of_carries (hfirst : Carries items first) (hsecond : Carries others second) :
    (∃ joined, Carries (items ++ others) joined) ∧ ∀ joined, Carries (items ++ others) joined →
      AreDecodedInRow EqualityFilter.read decodeEqualityFilters (items ++ others) first second joined ∧
      AreDecodedInRow DateRangeFilter.read decodeDateRanges (items ++ others) first second joined := by
  refine ⟨hfirst.exists_append hsecond, fun joined hjoined => ⟨?_, ?_⟩⟩
  · rw [decodeEqualityFilters_eq]
    exact areDecodedInRow_decodeFilters hfirst hsecond hjoined
  · rw [decodeDateRanges_eq]
    exact areDecodedInRow_decodeFilters hfirst hsecond hjoined

/-- A filter that is left out does not hide the bad one behind it. -/
theorem areDecodedInRow_of_carries_zeroFirst :
    let front := [EqualityFilter.toJson ⟨"a", some 0⟩, EqualityFilter.toJson ⟨"b", some 3⟩]
    let back := [EqualityFilter.toJson ⟨"c", some 4⟩, .str "c"]
    let first := coded (.arr front)
    let second := coded (.arr back)
    Carries front first ∧ Carries back second ∧ decodeEqualityFilters (some first) = .ok [⟨"b", some 3⟩] ∧
      ∃ joined, Carries (front ++ back) joined ∧
        decodeEqualityFilters (some joined) = .error (.badFilter .lookups .notObjects) := by
  intro front back first second
  have hfront : ∀ v ∈ front, v.IsExact := by
    rw [List.forall_mem_cons, List.forall_mem_singleton]
    constructor
    · exact EqualityFilter.isExact_toJson (by rintro n ⟨⟩; decide)
    · exact EqualityFilter.isExact_toJson (by rintro n ⟨⟩; decide)
  have hback : ∀ v ∈ back, v.IsExact := by
    rw [List.forall_mem_cons, List.forall_mem_singleton]
    constructor
    · exact EqualityFilter.isExact_toJson (by rintro n ⟨⟩; decide)
    · exact .str "c"
  have hfirst : Carries front first := .of_isExact hfront
  have hsecond : Carries back second := .of_isExact hback
  have hkept : decodeEqualityFilters (some first) = .ok [⟨"b", some 3⟩] := by
    rw [decodeEqualityFilters_eq, decodeFilters_of_carries hfirst]
    rfl
  have hrefused : decodeEqualityFilters (some second) = .error (.badFilter .lookups .notObjects) := by
    rw [decodeEqualityFilters_eq, decodeFilters_of_carries hsecond]
    rfl
  obtain ⟨⟨joined, hjoined⟩, hrow⟩ := areDecodedInRow_of_carries hfirst hsecond
  refine ⟨hfirst, hsecond, hkept, joined, hjoined, ?_⟩
  exact ((hrow joined hjoined).1.error_iff _).mpr (Or.inr ⟨⟨_, hkept⟩, hrefused⟩)

end Backoffice
