import Mathlib
import Backoffice.Proofs.Json.RoundTrip
import Backoffice.Proofs.Outcome
import Backoffice.Proofs.Query.PlainTexts

/-!
# Coded filters read back

A list of filters goes into a request as a JSON array in percent coding, `coded`.  The array is read back
as it was written (`FilterKind.items_coded`), and so are the equality filters and the selected row numbers
in it (`decode_coded`): names with quotation marks, percent signs or characters beyond ASCII, and integers
of any length that the reader takes.
-/

namespace Backoffice

/-- The value as a percent-coded JSON text. -/
def coded (v : Json) : String :=
  Text.Percent.quote (v.render .spaced)

/-! ### The array -/

/-- An array of which nothing is lost is read back from its text. -/
theorem Json.parse?_render_arr {items : List Json} (hexact : ∀ v ∈ items, v.IsExact) :
    Json.parse? ((Json.arr items).render .spaced).toList = some (.arr items) := by
  unfold Json.render
  rw [String.toList_ofList]
  exact Json.parse?_write Json.Style.isRegular_spaced (.arr hexact)

/-- The items of a coded array are those of the array. -/
theorem FilterKind.items_coded (kind : FilterKind) {items : List Json}
    (hexact : ∀ v ∈ items, v.IsExact) : kind.items (some (coded (.arr items))) = .ok items := by
  unfold coded
  rw [FilterKind.items_quote, FilterKind.itemsOf_strip (Json.parse?_render_arr hexact)]

/-! ### Equality filters and row numbers -/

/-- The object that writes an equality filter. -/
def EqualityFilter.toJson (f : EqualityFilter) : Json :=
  .obj [("fieldName", .str f.fieldName), ("matchValue", f.matchValue.elim .null .int)]

/-- An equality filter is read back from its object. -/
theorem EqualityFilter.decodeItem_toJson (f : EqualityFilter) :
    decodeItem .lookups .invalidFilter EqualityFilter.read f.toJson = .ok f := by
  obtain ⟨name, value⟩ := f
  cases value with
  | none => rfl
  | some n => rfl

/-- An equality filter with a number that is not too long is written without loss. -/
theorem EqualityFilter.isExact_toJson {f : EqualityFilter}
    (hshort : ∀ n, f.matchValue = some n → (Nat.toDigits 10 n.natAbs).length ≤ 4300) :
    f.toJson.IsExact := by
  obtain ⟨name, value⟩ := f
  refine .obj (by simp) ?_
  rw [List.forall_mem_cons, List.forall_mem_singleton]
  refine ⟨.str name, ?_⟩
  cases value with
  | none => exact .null
  | some n => exact .int (hshort n rfl)

/-- An equality filter has a value if that is a number other than zero. -/
theorem EqualityFilter.isSet_eq (f : EqualityFilter) :
    f.isSet = decide (f.matchValue ≠ none ∧ f.matchValue ≠ some 0) := by
  unfold isSet
  rw [Bool.eq_iff_iff, decide_eq_true_iff]
  cases f.matchValue with
  | none => simp
  | some n => simp

/-- Of equal numbers the first is kept. -/
theorem distinct_eq_eraseDups (ns : List ℤ) : distinct ns = ns.eraseDups := by
  unfold distinct
  induction ns using List.reverseRecOn with
  | nil => rfl
  | append_singleton ns n ih =>
    rw [List.foldl_append, List.foldl_cons, List.foldl_nil, ih, List.eraseDups_append]
    by_cases h : n ∈ ns
    · have hnone : [n].removeAll ns = [] := by simp [List.removeAll, h]
      rw [if_pos (List.mem_eraseDups.mpr h), hnone, List.eraseDups_nil, List.append_nil]
    · have hone : [n].removeAll ns = [n] := by simp [List.removeAll, h]
      rw [if_neg (fun hn => h (List.mem_eraseDups.mp hn)), hone, List.eraseDups_cons, List.filter_nil,
        List.eraseDups_nil]

/-- Equality filters are read back from their coded array, if they have a value. -/
theorem decodeEqualityFilters_coded {filters : List EqualityFilter}
    (hshort : ∀ f ∈ filters, ∀ n, f.matchValue = some n → (Nat.toDigits 10 n.natAbs).length ≤ 4300) :
    decodeEqualityFilters (some (coded (.arr (filters.map (·.toJson))))) =
      .ok (filters.filter fun f => f.matchValue ≠ none ∧ f.matchValue ≠ some 0) := by
  have hexact : ∀ v ∈ filters.map (·.toJson), v.IsExact := by
    rw [List.forall_mem_map]
    intro f hf
    exact EqualityFilter.isExact_toJson (hshort f hf)
  have hread := mapM_map_eq_ok fun f (_ : f ∈ filters) => f.decodeItem_toJson
  have hset := List.filter_congr fun f (_ : f ∈ filters) => f.isSet_eq
  unfold decodeEqualityFilters
  rw [FilterKind.items_coded .lookups hexact, ok_bind, hread, ok_bind, hset]
  rfl

/-- Row numbers are read back from their coded array, each at its first place. -/
theorem decodeSelectedIds_coded {ids : List ℤ} (hshort : ∀ n ∈ ids, (Nat.toDigits 10 n.natAbs).length ≤ 4300) :
    decodeSelectedIds (some (coded (.arr (ids.map .int)))) = .ok ids.eraseDups := by
  have hexact : ∀ v ∈ ids.map Json.int, v.IsExact := by
    rw [List.forall_mem_map]
    intro n hn
    exact .int (hshort n hn)
  have hread : (ids.map Json.int).mapM decodeSelectedId = .ok ids := mapM_map_eq_ok fun _ _ => rfl
  unfold decodeSelectedIds
  rw [FilterKind.items_coded .selectedIds hexact, ok_bind, hread, ok_bind, distinct_eq_eraseDups]
  rfl

/-- Filters are read back from their coded array: equality filters if they have a value other than zero, and
row numbers each at its first place. -/
theorem decode_coded (filters : List EqualityFilter) (ids : List ℤ)
    (hfilters : ∀ f ∈ filters, ∀ n, f.matchValue = some n → (Nat.toDigits 10 n.natAbs).length ≤ 4300)
    (hids : ∀ n ∈ ids, (Nat.toDigits 10 n.natAbs).length ≤ 4300) :
    decodeEqualityFilters (some (coded (.arr (filters.map (·.toJson))))) =
        .ok (filters.filter fun f => f.matchValue ≠ none ∧ f.matchValue ≠ some 0) ∧
      decodeSelectedIds (some (coded (.arr (ids.map .int)))) = .ok ids.eraseDups :=
  ⟨decodeEqualityFilters_coded hfilters, decodeSelectedIds_coded hids⟩

/-- A name with a percent sign, a quotation mark and a letter beyond ASCII is read back. -/
theorem decode_coded_percentSign :
    decodeEqualityFilters (some (coded (.arr [EqualityFilter.toJson ⟨"50% \"né\"", some (-7)⟩,
        EqualityFilter.toJson ⟨"b", some 0⟩, EqualityFilter.toJson ⟨"c", none⟩]))) =
        .ok [⟨"50% \"né\"", some (-7)⟩] ∧
      decodeSelectedIds (some (coded (.arr [.int 5, .int 9, .int 5]))) = .ok [5, 9] := by
  have hfilters : ∀ f ∈ [EqualityFilter.mk "50% \"né\"" (some (-7)), ⟨"b", some 0⟩, ⟨"c", none⟩],
      ∀ n, f.matchValue = some n → (Nat.toDigits 10 n.natAbs).length ≤ 4300 := by
    simp only [List.forall_mem_cons, List.not_mem_nil, false_imp_iff, implies_true, and_true,
      Option.some_inj, forall_eq', reduceCtorEq]
    decide
  have hids : ∀ n ∈ ([5, 9, 5] : List ℤ), (Nat.toDigits 10 n.natAbs).length ≤ 4300 := by
    decide
  have hread := decode_coded _ _ hfilters hids
  have hkept : [EqualityFilter.mk "50% \"né\"" (some (-7)), ⟨"b", some 0⟩, ⟨"c", none⟩].filter
      (fun f => f.matchValue ≠ none ∧ f.matchValue ≠ some 0) = [⟨"50% \"né\"", some (-7)⟩] := by decide
  have hfirst : ([5, 9, 5] : List ℤ).eraseDups = [5, 9] := by decide
  rw [hkept, hfirst] at hread
  exact hread

end Backoffice
