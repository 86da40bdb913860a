import Mathlib
import Backoffice.Proofs.Fields
import Backoffice.Proofs.Query.Params

/-!
# Where pages begin

The index of a page is checked against the largest page that the settings allow, and not against the size
that the page has.  Both directions of this check are right: the offset of every accepted page whose size
was asked for fits 64 bits, and no page is refused that would fit with pages of the largest size
(`ListParams.offset_of_read`).
-/

namespace Backoffice

/-- The fields give an integer under one of the names. -/
def Form.Gives (names : List String) (fields : List (String × Json)) (n : ℤ) : Prop :=
  ∃ v, (find names fields).value = some v ∧ asInt v = .ok n

namespace ListParams

variable {settings : Settings} {fields : List (String × Json)} {p q : ListParams} {i s : ℤ}

/-- The names of the index of a page. -/
def pageIndexNames : List String := ["pageIndex", "page_index"]

/-- The names of the size of a page. -/
def pageSizeNames : List String := ["pageSize", "page_size"]

/-- The fields that do not choose a page. -/
def withoutPage (fields : List (String × Json)) : List (String × Json) :=
  fields.filter fun f => f.1 ∉ pageIndexNames ++ pageSizeNames

/-! ### Index and size among the other fields -/

/-- A field that does not choose a page is found as before when those that do are left out. -/
theorem find_withoutPage {names : List String}
    (h : ∀ name ∈ names, name ∉ pageIndexNames ++ pageSizeNames) :
    Form.find names (withoutPage fields) = Form.find names fields :=
  Form.find_filter (fun name hname => decide_eq_true (h name hname)) fields

/-- With fields for a page beside them, the others are read as by themselves. -/
theorem readFrom_iff (hothers : q.ReadFrom settings (withoutPage fields))
    (hi : Form.Gives pageIndexNames fields i) (hs : Form.Gives pageSizeNames fields s) :
    p.ReadFrom settings fields ↔ IsPageIndex settings i ∧ 0 ≤ s ∧
      p = { q with pageIndex := i, pageSize := min (max s 1) settings.pageCap } := by
  obtain ⟨v, hv, hint⟩ := hi
  obtain ⟨w, hw, hsize⟩ := hs
  obtain ⟨-, -, hsort, hascending, hsearch, hlookups, hranges, hselected⟩ := hothers
  rw [find_withoutPage (by decide)] at hsort hascending hsearch hlookups hranges
  constructor
  · intro hp
    obtain ⟨hread, hindex⟩ :=
      asPageIndex_eq_ok_iff.mp ((Form.Slot.default_eq_ok_iff_of_value hv).mp hp.pageIndex)
    have hi : i = p.pageIndex := Except.ok.inj (hint.symm.trans hread)
    obtain ⟨size, hread', hnonneg, hn⟩ :=
      asPageSize_eq_ok_iff.mp ((Form.Slot.default_eq_ok_iff_of_value hw).mp hp.pageSize)
    obtain rfl : s = size := Except.ok.inj (hsize.symm.trans hread')
    have hsort' := Form.Checked.ok.inj (hp.sort.symm.trans hsort)
    have hascending' := Form.Checked.ok.inj (hp.sortAscending.symm.trans hascending)
    have hsearch' := Form.Checked.ok.inj (hp.search.symm.trans hsearch)
    have hlookups' := Form.Checked.ok.inj (hp.lookups.symm.trans hlookups)
    have hranges' := Form.Checked.ok.inj (hp.ranges.symm.trans hranges)
    refine ⟨hi ▸ hindex, hnonneg, ?_⟩
    rw [hi, ← hn, ← hsort', ← hascending', ← hsearch', ← hlookups', ← hranges', hselected,
      ← hp.selectedIds]
  · rintro ⟨hindex, hnonneg, rfl⟩
    exact
      { pageIndex := (Form.Slot.default_eq_ok_iff_of_value hv).mpr
          (asPageIndex_eq_ok_iff.mpr ⟨hint, hindex⟩)
        pageSize := (Form.Slot.default_eq_ok_iff_of_value hw).mpr
          (asPageSize_eq_ok_iff.mpr ⟨s, hsize, hnonneg, rfl⟩)
        sort := hsort
        sortAscending := hascending
        search := hsearch
        lookups := hlookups
        ranges := hranges
        selectedIds := hselected }

/-! ### Both readers -/

/-- The readers of list parameters: for a list of entities and for a picker. -/
def readers : List (Settings → List (String × Json) → Form.Checked ListParams) :=
  [read, readLookup]

/-- Whichever reader is taken, page and filters are read in the same way. -/
theorem readFrom_of_reader {reader : Settings → List (String × Json) → Form.Checked ListParams}
    (hreader : reader ∈ readers) (h : reader settings fields = .ok p) :
    ReadFrom settings fields { p with selectedIds := none } := by
  unfold readers at hreader
  rw [List.mem_cons, List.mem_singleton] at hreader
  rcases hreader with rfl | rfl
  · have hread := read_eq_ok_iff.mp h
    rw [← hread.selectedIds]
    exact hread
  · exact read_eq_ok_iff.mp (readLookup_eq_ok_iff.mp h).1

/-- With fields for a page beside them, the others are read as by themselves, whichever reader is taken. -/
theorem reader_eq_ok_iff {reader : Settings → List (String × Json) → Form.Checked ListParams}
    (hreader : reader ∈ readers) (hothers : reader settings (withoutPage fields) = .ok q)
    (hi : Form.Gives pageIndexNames fields i) (hs : Form.Gives pageSizeNames fields s) :
    reader settings fields = .ok p ↔ IsPageIndex settings i ∧ 0 ≤ s ∧
      p = { q with pageIndex := i, pageSize := min (max s 1) settings.pageCap } := by
  unfold readers at hreader
  rw [List.mem_cons, List.mem_singleton] at hreader
  rcases hreader with rfl | rfl
  · rw [read_eq_ok_iff] at hothers ⊢
    exact readFrom_iff hothers hi hs
  · obtain ⟨hread, hselected⟩ := readLookup_eq_ok_iff.mp hothers
    rw [find_withoutPage (by decide)] at hselected
    rw [readLookup_eq_ok_iff, read_eq_ok_iff, readFrom_iff (read_eq_ok_iff.mp hread) hi hs, hselected]
    constructor
    · rintro ⟨⟨hindex, hnonneg, hp⟩, hids⟩
      refine ⟨hindex, hnonneg, ?_⟩
      cases p
      simp_all
    · rintro ⟨hindex, hnonneg, rfl⟩
      exact ⟨⟨hindex, hnonneg, rfl⟩, rfl⟩

/-- The offset of parameters that were read with a size of the page fits 64 bits.  And the check of the index
refuses no page without need: beside fields that are accepted by themselves, every index is accepted with
which the largest page would not lie beyond the largest offset, together with every size that is not
negative. -/
theorem offset_of_read (settings : Settings) :
    (∀ reader ∈ readers, ∀ fields p, reader settings fields = .ok p →
      (Form.find pageSizeNames fields).value ≠ none →
        p.offset = (p.pageIndex - 1) * p.limit ∧ 0 ≤ p.offset ∧ p.offset ≤ 2 ^ 63 - 1) ∧
    ∀ reader ∈ readers, ∀ fields q, reader settings (withoutPage fields) = .ok q →
      ∀ i s, Form.Gives pageIndexNames fields i → Form.Gives pageSizeNames fields s →
        ∀ p, reader settings fields = .ok p ↔
          (1 ≤ i ∧ (i - 1) * max settings.maxPageSize 1 ≤ 2 ^ 63 - 1) ∧ 0 ≤ s ∧
            p = { q with pageIndex := i, pageSize := min (max s 1) (max settings.maxPageSize 1) } := by
  constructor
  · intro reader hreader fields p hread hgiven
    obtain ⟨v, hv⟩ := Option.ne_none_iff_exists'.mp hgiven
    have hfrom := readFrom_of_reader hreader hread
    have hindex := (valid_of_read (read_eq_ok_iff.mpr hfrom)).pageIndex
    have hsize := pageSize_of_asPageSize ((Form.Slot.default_eq_ok_iff_of_value hv).mp hfrom.pageSize)
    exact ⟨rfl, offset_mem hindex hsize⟩
  · intro reader hreader fields q hothers i s hi hs p
    exact reader_eq_ok_iff hreader hothers hi hs

/-- The last page of the largest size that is accepted under the standard settings, asked for by texts, begins
807 rows before the largest offset. -/
theorem offset_of_read_lastPage :
    let fields : List (String × Json) :=
      [("pageIndex", .str "9223372036854776"), ("search", .str " a "), ("page_size", .int 5000)]
    ∃ p, readLookup (Settings.standard "" "") fields = .ok p ∧ p.limit = 1000 ∧
      p.offset = 2 ^ 63 - 808 ∧ p.offset ≤ 2 ^ 63 - 1 := by
  intro fields
  have hlookup : readLookup ∈ readers := List.mem_cons_of_mem _ (List.mem_singleton_self _)
  obtain ⟨hfits, haccepts⟩ := offset_of_read (Settings.standard "" "")
  have hread := (haccepts readLookup hlookup fields _ rfl 9223372036854776 5000
    ⟨_, rfl, by decide⟩ ⟨_, rfl, rfl⟩ _).mpr ⟨⟨by decide, by decide⟩, by decide, rfl⟩
  exact ⟨_, hread, by decide, by decide, (hfits readLookup hlookup fields _ hread (by decide)).2.2⟩

end ListParams

end Backoffice
