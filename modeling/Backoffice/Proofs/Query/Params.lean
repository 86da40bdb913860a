import Mathlib
import Backoffice.Proofs.Outcome
import Backoffice.Proofs.Text.Strip
import Backoffice.Query.Params

/-!
# Accepted parameters

What is known of list parameters that were read without errors: the page lies in the range of
offsets, the rows of a page are within the cap of the settings unless the default is used, and texts
are stripped.
-/

namespace Backoffice

namespace Form.Slot

variable {α : Type}

/-- A field that has to be there and was read has a readable value. -/
theorem of_required_eq_ok {slot : Slot} {read : Json → Except Fault α} (h : slot.required read = .ok a) :
    ∃ v, read v = .ok a := by
  unfold required at h
  split at h
  · cases h
  · rename_i v hv
    split at h
    · rename_i a' hread
      cases h
      exact ⟨v, hread⟩
    · cases h

/-- A field that was read is absent or has a readable value. -/
theorem of_default_eq_ok {slot : Slot} {absent a : α} {read : Json → Except Fault α}
    (h : slot.default absent read = .ok a) : a = absent ∨ ∃ v, read v = .ok a := by
  unfold default at h
  split at h
  · cases h
    exact Or.inl rfl
  · exact Or.inr (of_required_eq_ok h)

/-- A field that has to be there and is given a value is read exactly if the value is. -/
theorem required_eq_ok_iff {name : String} {v : Json} {a : α} {read : Json → Except Fault α} :
    (Slot.mk name (some v)).required read = .ok a ↔ read v = .ok a := by
  unfold required
  cases hread : read v <;> simp [hread]

/-- A field with a value is read exactly if the value is. -/
theorem default_eq_ok_iff_of_value {slot : Slot} {v : Json} (hv : slot.value = some v) {absent a : α}
    {read : Json → Except Fault α} : slot.default absent read = .ok a ↔ read v = .ok a := by
  obtain ⟨name, value⟩ := slot
  cases hv
  exact required_eq_ok_iff

/-- A field that is given a value is read exactly if the value is. -/
theorem default_eq_ok_iff {name : String} {v : Json} {absent a : α} {read : Json → Except Fault α} :
    (Slot.mk name (some v)).default absent read = .ok a ↔ read v = .ok a :=
  default_eq_ok_iff_of_value rfl

end Form.Slot

namespace ListParams

/-- The index of a page is accepted under the settings: the page exists, and even with the largest
pages it would not lie beyond the largest offset. -/
def IsPageIndex (settings : Settings) (i : Int) : Prop :=
  1 ≤ i ∧ (i - 1) * settings.pageCap ≤ maxOffset

instance (settings : Settings) (i : Int) : Decidable (IsPageIndex settings i) :=
  inferInstanceAs (Decidable (_ ∧ _))

/-- A text that was read as an optional word is stripped and not empty. -/
theorem nonBlank?_of_asOptionalWord {v : Json} {w : Option String} (h : asOptionalWord v = .ok w) :
    Text.nonBlank? w = w := by
  unfold asOptionalWord at h
  cases hread : Form.orNull Form.asText v with
  | error e =>
    rw [hread] at h
    cases h
  | ok raw =>
    rw [hread] at h
    cases h
    exact Text.nonBlank?_nonBlank? raw

/-- A page index is read exactly if it is an integer that is accepted. -/
theorem asPageIndex_eq_ok_iff {settings : Settings} {v : Json} {i : Int} :
    asPageIndex settings v = .ok i ↔ Form.asInt v = .ok i ∧ IsPageIndex settings i := by
  unfold asPageIndex
  rw [bind_eq_ok_iff]
  constructor
  · rintro ⟨n, hn, h⟩
    split_ifs at h with hpos hfar
    cases h
    exact ⟨hn, not_lt.mp hpos, not_lt.mp hfar⟩
  · rintro ⟨hint, hlow, hhigh⟩
    exact ⟨i, hint, by rw [if_neg (not_lt.mpr hlow), if_neg (not_lt.mpr hhigh)]⟩

/-- A page size is read exactly if it is an integer that is not negative, and then it is brought between one
row and the cap. -/
theorem asPageSize_eq_ok_iff {settings : Settings} {v : Json} {n : Int} :
    asPageSize settings v = .ok n ↔
      ∃ size, Form.asInt v = .ok size ∧ 0 ≤ size ∧ n = min (max size 1) settings.pageCap := by
  unfold asPageSize
  rw [bind_eq_ok_iff]
  refine exists_congr fun size => and_congr_right fun _ => ?_
  by_cases hneg : size < 0
  · rw [if_pos hneg]
    exact iff_of_false (fun h => nomatch h) fun h => absurd h.1 (not_le.mpr hneg)
  · rw [if_neg hneg, Except.ok.injEq, eq_comm, and_iff_right (not_lt.mp hneg)]

/-- A page size is read as a number of rows between one and the cap. -/
theorem pageSize_of_asPageSize {settings : Settings} {v : Json} {n : Int}
    (h : asPageSize settings v = .ok n) : 1 ≤ n ∧ n ≤ settings.pageCap := by
  obtain ⟨size, -, -, rfl⟩ := asPageSize_eq_ok_iff.mp h
  have hcap : 1 ≤ settings.pageCap := le_max_right _ _
  exact ⟨le_min (le_max_right _ _) hcap, min_le_right _ _⟩

/-- The offset of an accepted page of an allowed size lies between zero and the largest offset.  The size is
at most the cap, which the index was checked against. -/
theorem offset_mem {settings : Settings} {i n : Int} (hindex : IsPageIndex settings i)
    (hsize : 1 ≤ n ∧ n ≤ settings.pageCap) :
    0 ≤ (i - 1) * n ∧ (i - 1) * n ≤ maxOffset := by
  have hpages : 0 ≤ i - 1 := sub_nonneg.mpr hindex.1
  refine ⟨mul_nonneg hpages (zero_le_one.trans hsize.1), ?_⟩
  calc (i - 1) * n ≤ (i - 1) * settings.pageCap := mul_le_mul_of_nonneg_left hsize.2 hpages
    _ ≤ maxOffset := hindex.2

/-- What is known of parameters that were read. -/
structure Valid (settings : Settings) (p : ListParams) : Prop where
  pageIndex : IsPageIndex settings p.pageIndex
  pageSize : p.pageSize = settings.defaultPageSize ∨ 1 ≤ p.pageSize ∧ p.pageSize ≤ settings.pageCap
  sort : Text.nonBlank? p.sort = p.sort
  search : Text.nonBlank? p.search = p.search

/-- The parameters are those of the fields: each one is read from its field, or is the default. -/
structure ReadFrom (settings : Settings) (fields : List (String × Json)) (p : ListParams) : Prop where
  pageIndex : (Form.find ["pageIndex", "page_index"] fields).default 1 (asPageIndex settings) =
    .ok p.pageIndex
  pageSize : (Form.find ["pageSize", "page_size"] fields).default settings.defaultPageSize
    (asPageSize settings) = .ok p.pageSize
  sort : (Form.find ["sort"] fields).default none asOptionalWord = .ok p.sort
  sortAscending : (Form.find ["sortAscending", "sort_ascending"] fields).default true Form.asBool =
    .ok p.sortAscending
  search : (Form.find ["search"] fields).default none asOptionalWord = .ok p.search
  lookups : (Form.find ["lookups"] fields).default none (Form.orNull Form.asText) = .ok p.lookups
  ranges : (Form.find ["ranges"] fields).default none (Form.orNull Form.asText) = .ok p.ranges
  selectedIds : p.selectedIds = none

/-- Parameters are read exactly if each one is read from its field. -/
theorem read_eq_ok_iff {settings : Settings} {fields : List (String × Json)} {p : ListParams} :
    read settings fields = .ok p ↔ p.ReadFrom settings fields := by
  unfold read
  simp only [Form.Checked.seq_eq_ok_iff, Form.Checked.map_eq_ok_iff]
  constructor
  · rintro ⟨_, ranges, ⟨_, lookups, ⟨_, search, ⟨_, ascending, ⟨_, sort, ⟨_, pageSize, ⟨pageIndex,
      hindex, rfl⟩, hsize, rfl⟩, hsort, rfl⟩, hascending, rfl⟩, hsearch, rfl⟩, hlookups, rfl⟩,
      hranges, rfl⟩
    exact ⟨hindex, hsize, hsort, hascending, hsearch, hlookups, hranges, rfl⟩
  · rintro ⟨hindex, hsize, hsort, hascending, hsearch, hlookups, hranges, hselected⟩
    refine ⟨_, p.ranges, ⟨_, p.lookups, ⟨_, p.search, ⟨_, p.sortAscending, ⟨_, p.sort, ⟨_, p.pageSize,
      ⟨p.pageIndex, hindex, rfl⟩, hsize, rfl⟩, hsort, rfl⟩, hascending, rfl⟩, hsearch, rfl⟩,
      hlookups, rfl⟩, hranges, ?_⟩
    rw [← hselected]

/-- The parameters of a picker are read exactly if those of the list and the selected rows are. -/
theorem readLookup_eq_ok_iff {settings : Settings} {fields : List (String × Json)} {p : ListParams} :
    readLookup settings fields = .ok p ↔
    read settings fields = .ok { p with selectedIds := none } ∧
      (Form.find ["selectedIds", "selected_ids"] fields).default none (Form.orNull Form.asText) =
        .ok p.selectedIds := by
  unfold readLookup
  simp only [Form.Checked.seq_eq_ok_iff, Form.Checked.map_eq_ok_iff]
  constructor
  · rintro ⟨_, selectedIds, ⟨q, hq, rfl⟩, hselected, rfl⟩
    have hnone : q.selectedIds = none := (read_eq_ok_iff.mp hq).selectedIds
    refine ⟨?_, hselected⟩
    rw [hq, ← hnone]
  · rintro ⟨hread, hselected⟩
    exact ⟨_, p.selectedIds, ⟨_, hread, rfl⟩, hselected, rfl⟩

/-- Parameters that were read are valid. -/
theorem valid_of_read {settings : Settings} {fields : List (String × Json)} {p : ListParams}
    (h : read settings fields = .ok p) : p.Valid settings := by
  have hfrom := read_eq_ok_iff.mp h
  have hword : ∀ {w : Option String} {slot : Form.Slot},
      slot.default none asOptionalWord = .ok w → Text.nonBlank? w = w := by
    intro w slot hw
    rcases Form.Slot.of_default_eq_ok hw with rfl | ⟨v, hv⟩
    · decide
    · exact nonBlank?_of_asOptionalWord hv
  refine ⟨?_, ?_, hword hfrom.sort, hword hfrom.search⟩
  · rcases Form.Slot.of_default_eq_ok hfrom.pageIndex with hfirst | ⟨v, hv⟩
    · rw [hfirst]
      refine ⟨le_refl _, ?_⟩
      rw [sub_self, zero_mul]
      decide
    · exact (asPageIndex_eq_ok_iff.mp hv).2
  · rcases Form.Slot.of_default_eq_ok hfrom.pageSize with hdefault | ⟨v, hv⟩
    · exact Or.inl hdefault
    · exact Or.inr (pageSize_of_asPageSize hv)

/-- Parameters of a picker that were read are valid. -/
theorem valid_of_readLookup {settings : Settings} {fields : List (String × Json)} {p : ListParams}
    (h : readLookup settings fields = .ok p) : p.Valid settings := by
  obtain ⟨hindex, hsize, hsort, hsearch⟩ := valid_of_read (readLookup_eq_ok_iff.mp h).1
  exact ⟨hindex, hsize, hsort, hsearch⟩

/-! ### Reading accepted parameters again -/

/-- An accepted page index is read. -/
theorem asPageIndex_int {settings : Settings} {i : Int} (h : IsPageIndex settings i) :
    asPageIndex settings (.int i) = .ok i :=
  asPageIndex_eq_ok_iff.mpr ⟨rfl, h⟩

/-- A page size within the cap is read as it is. -/
theorem asPageSize_int {settings : Settings} {n : Int} (h : 1 ≤ n ∧ n ≤ settings.pageCap) :
    asPageSize settings (.int n) = .ok n := by
  refine asPageSize_eq_ok_iff.mpr ⟨n, rfl, by omega, ?_⟩
  rw [max_eq_left h.1, min_eq_left h.2]

/-- A stripped text is read as it is. -/
theorem asOptionalWord_ofText? {w : Option String} (h : Text.nonBlank? w = w) :
    asOptionalWord (Json.ofText? w) = .ok w := by
  have hread : Form.orNull Form.asText (Json.ofText? w) = .ok w := by
    cases w <;> rfl
  unfold asOptionalWord
  rw [hread]
  exact congrArg Except.ok h

/-- A text or null is read as it is. -/
theorem asText_ofText? (w : Option String) :
    Form.orNull Form.asText (Json.ofText? w) = .ok w := by
  cases w <;> rfl

/-- Valid parameters with a page size within the cap are read from their own fields. -/
theorem readLookup_toFields {settings : Settings} {p : ListParams} (h : p.Valid settings)
    (hsize : 1 ≤ p.pageSize ∧ p.pageSize ≤ settings.pageCap) :
    readLookup settings (p.toFields ++ [("selectedIds", Json.ofText? p.selectedIds)]) = .ok p := by
  have hread : read settings (p.toFields ++ [("selectedIds", Json.ofText? p.selectedIds)]) =
      .ok { p with selectedIds := none } :=
    read_eq_ok_iff.mpr
      { pageIndex := Form.Slot.default_eq_ok_iff.mpr (asPageIndex_int h.pageIndex)
        pageSize := Form.Slot.default_eq_ok_iff.mpr (asPageSize_int hsize)
        sort := Form.Slot.default_eq_ok_iff.mpr (asOptionalWord_ofText? h.sort)
        sortAscending := Form.Slot.default_eq_ok_iff.mpr rfl
        search := Form.Slot.default_eq_ok_iff.mpr (asOptionalWord_ofText? h.search)
        lookups := Form.Slot.default_eq_ok_iff.mpr (asText_ofText? p.lookups)
        ranges := Form.Slot.default_eq_ok_iff.mpr (asText_ofText? p.ranges)
        selectedIds := rfl }
  exact readLookup_eq_ok_iff.mpr
    ⟨hread, Form.Slot.default_eq_ok_iff.mpr (asText_ofText? p.selectedIds)⟩

/-- The selected rows of a picker are those of its query string. -/
theorem selectedIds_of_lookupParams {settings : Settings} {q : ListQuery} {p : ListParams}
    (h : q.lookupParams settings = .ok p) : p.selectedIds = q.selectedIds := by
  unfold ListQuery.lookupParams at h
  obtain ⟨first, -, hread⟩ := bind_eq_ok_iff.mp h
  unfold ListQuery.orRefuse at hread
  split at hread
  · rename_i p' hsecond
    cases hread
    have htext := Form.Slot.default_eq_ok_iff.mp (readLookup_eq_ok_iff.mp hsecond).2
    exact Except.ok.inj (htext.symm.trans (asText_ofText? q.selectedIds))
  · cases hread

/-- The parameters are read from some fields, as those of a list of entities or of a picker. -/
def IsRead (settings : Settings) (p : ListParams) : Prop :=
  ∃ fields, read settings fields = .ok p ∨ readLookup settings fields = .ok p

/-- Parameters that are read from some fields are valid. -/
theorem IsRead.valid {settings : Settings} {p : ListParams} (h : p.IsRead settings) :
    p.Valid settings := by
  obtain ⟨fields, hread | hread⟩ := h
  · exact valid_of_read hread
  · exact valid_of_readLookup hread

/-- The page of this index is accepted for the list that the parameters describe. -/
def Accepts (settings : Settings) (p : ListParams) (i : Int) : Prop :=
  IsRead settings { p with pageIndex := i }

/-- A page is accepted if it exists and could not lie beyond the largest offset. -/
theorem Valid.accepts_iff {settings : Settings} {p : ListParams} (h : p.Valid settings)
    (hsize : 1 ≤ p.pageSize ∧ p.pageSize ≤ settings.pageCap) {i : Int} :
    p.Accepts settings i ↔ IsPageIndex settings i := by
  constructor
  · intro hread
    exact hread.valid.pageIndex
  · intro hi
    exact ⟨_, Or.inr (readLookup_toFields ⟨hi, h.pageSize, h.sort, h.search⟩ hsize)⟩

/-- The offset of a valid page of at least no rows is not negative. -/
theorem Valid.offset_nonneg {settings : Settings} {p : ListParams} (h : p.Valid settings)
    (hlimit : 0 ≤ p.limit) : 0 ≤ p.offset :=
  mul_nonneg (sub_nonneg.mpr h.pageIndex.1) hlimit

end ListParams

end Backoffice
