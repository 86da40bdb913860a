import Mathlib
import Backoffice.Proofs.Query.Offsets
import Backoffice.Proofs.Query.PageSizes

/-!
# The parameters of a picker

The parameters of a picker are those of a list, read once more together with the selected rows.  Reading
them again changes nothing but the size of a page, and that only where it was the default and is not
allowed; so a query string means the same to both lists (`ListQuery.lookupParams_of_pageSize`).
-/

namespace Backoffice

namespace ListParams

variable {settings : Settings} {p p' : ListParams} {ids : Option String}

/-- Of the parameters as fields all but the page is read as it is. -/
theorem readLookup_withoutPage_toFields (h : p.Valid settings) :
    readLookup settings (withoutPage (p.toFields ++ [("selectedIds", Json.ofText? ids)])) =
      .ok { p with pageIndex := 1, pageSize := settings.defaultPageSize, selectedIds := ids } := by
  refine readLookup_eq_ok_iff.mpr ⟨read_eq_ok_iff.mpr ?_,
    Form.Slot.default_eq_ok_iff.mpr (asText_ofText? ids)⟩
  exact
    { pageIndex := rfl
      pageSize := rfl
      sort := Form.Slot.default_eq_ok_iff.mpr (asOptionalWord_ofText? h.sort)
      sortAscending := Form.Slot.default_eq_ok_iff.mpr rfl
      search := Form.Slot.default_eq_ok_iff.mpr (asOptionalWord_ofText? h.search)
      lookups := Form.Slot.default_eq_ok_iff.mpr (asText_ofText? p.lookups)
      ranges := Form.Slot.default_eq_ok_iff.mpr (asText_ofText? p.ranges)
      selectedIds := rfl }

/-- Valid parameters are accepted a second time unless the size of their page is negative, as only a default
can be; the size is then brought between one row and the cap, and the rest stays. -/
theorem readLookup_toFields_eq_ok_iff (h : p.Valid settings) :
    readLookup settings (p.toFields ++ [("selectedIds", Json.ofText? ids)]) = .ok p' ↔
      0 ≤ p.pageSize ∧
        p' = { p with pageSize := min (max p.pageSize 1) settings.pageCap, selectedIds := ids } := by
  have hlookup : readLookup ∈ readers := List.mem_cons_of_mem _ (List.mem_singleton_self _)
  have hindex : Form.Gives pageIndexNames (p.toFields ++ [("selectedIds", Json.ofText? ids)]) p.pageIndex :=
    ⟨_, rfl, rfl⟩
  have hsize : Form.Gives pageSizeNames (p.toFields ++ [("selectedIds", Json.ofText? ids)]) p.pageSize :=
    ⟨_, rfl, rfl⟩
  rw [reader_eq_ok_iff hlookup (readLookup_withoutPage_toFields h) hindex hsize,
    and_iff_right h.pageIndex]

end ListParams

namespace ListQuery

open ListParams

variable {settings : Settings} {q : ListQuery} {p p' : ListParams} {ids : Option String}

/-- The size of the page is allowed: the query string names one, which is brought between one row and the
cap, or the default size of the settings lies there by itself. -/
def HasPageSize (settings : Settings) (q : ListQuery) : Prop :=
  Text.nonBlank? q.pageSize ≠ none ∨
    1 ≤ settings.defaultPageSize ∧ settings.defaultPageSize ≤ max settings.maxPageSize 1

/-- What a list has accepted a picker accepts unless the size of the page is negative; it brings the size
between one row and the cap, and takes the rest as it is. -/
theorem lookupParams_eq_ok_iff (h : q.params settings = .ok p) :
    { q with selectedIds := ids }.lookupParams settings = .ok p' ↔ 0 ≤ p.pageSize ∧
      p' = { p with pageSize := min (max p.pageSize 1) settings.pageCap, selectedIds := ids } := by
  have hvalid : p.Valid settings := valid_of_read (orRefuse_eq_ok_iff.mp h)
  have hparams : { q with selectedIds := ids }.params settings = .ok p := h
  unfold lookupParams
  rw [hparams, ok_bind, orRefuse_eq_ok_iff, readLookup_toFields_eq_ok_iff hvalid]

/-- The size of an accepted page is allowed if the query string or the settings see to it. -/
theorem HasPageSize.isPageSize (hsize : q.HasPageSize settings) (h : q.params settings = .ok p) :
    IsPageSize settings p.pageSize := by
  by_cases hblank : Text.nonBlank? q.pageSize = none
  · rw [pageSize_of_params_of_blank h hblank]
    exact hsize.resolve_left (not_not.mpr hblank)
  · exact isPageSize_of_params h hblank

/-- A query string means the same to a list and to a picker, whatever the selected rows are: what the list
refuses the picker refuses for the same reason, and what the list accepts the picker accepts unchanged, so
that both begin at the same row and have the same number of rows. -/
theorem lookupParams_of_pageSize (hsize : q.HasPageSize settings) (ids : Option String) :
    { q with selectedIds := ids }.lookupParams settings =
        (fun p => { p with selectedIds := ids }) <$> q.params settings ∧
      ∀ p, q.params settings = .ok p → ∃ p', { q with selectedIds := ids }.lookupParams settings = .ok p' ∧
        p' = { p with selectedIds := ids } ∧ p'.limit = p.limit ∧ p'.offset = p.offset := by
  have haccepted : ∀ p, q.params settings = .ok p →
      { q with selectedIds := ids }.lookupParams settings = .ok { p with selectedIds := ids } := by
    intro p hp
    obtain ⟨hlow, hhigh⟩ := hsize.isPageSize hp
    refine (lookupParams_eq_ok_iff hp).mpr ⟨zero_le_one.trans hlow, ?_⟩
    rw [max_eq_left hlow, min_eq_left hhigh]
  refine ⟨?_, fun p hp => ⟨_, haccepted p hp, rfl, rfl, rfl⟩⟩
  cases hread : q.params settings with
  | error r =>
    have hrefused : { q with selectedIds := ids }.params settings = .error r := hread
    unfold lookupParams
    rw [hrefused]
    rfl
  | ok p => exact haccepted p hread

/-- A query string with blanks around its texts, and a page that is larger than the largest one. -/
def padded : ListQuery :=
  { (default : ListQuery) with
    pageIndex := some " 3 ", pageSize := some "\u00a05_000\t", sort := some "  ", search := some " a b\u2003" }

/-- The third page of the largest size is the same page of a picker. -/
theorem lookupParams_of_pageSize_padded : padded.HasPageSize (Settings.standard "" "") ∧
    ∃ p, { padded with selectedIds := some "[1]" }.lookupParams (Settings.standard "" "") = .ok p ∧
      p.sort = none ∧ p.search = some "a b" ∧ p.limit = 1000 ∧ p.offset = 2000 := by
  have hsize : padded.HasPageSize (Settings.standard "" "") := .inl (by decide)
  have hparams : padded.params (Settings.standard "" "") =
      .ok ⟨3, 1000, none, true, some "a b", none, none, none⟩ := by decide
  obtain ⟨p', hp', rfl, hlimit, hoffset⟩ := (lookupParams_of_pageSize hsize (some "[1]")).2 _ hparams
  exact ⟨hsize, _, hp', rfl, rfl, hlimit, hoffset⟩

end ListQuery

end Backoffice
