import Mathlib
import Backoffice.Directory.Lookup
import Backoffice.Proofs.Menu.Arrangement
import Backoffice.Proofs.Query.ClientErrors

/-!
# How many rows a page has

The size of a page that a caller asks for is brought between one row and the cap of the settings, and so is
the size of every page of a picker and of the menu.  The default size is not: a list request that leaves the
size out gets the default of the settings as it is (`ListSpec.limit_of_compile`).
-/

namespace Backoffice

namespace ListParams

/-- The number of rows is one that the settings allow for a page. -/
def IsPageSize (settings : Settings) (n : ℤ) : Prop :=
  1 ≤ n ∧ n ≤ settings.pageCap

instance (settings : Settings) (n : ℤ) : Decidable (IsPageSize settings n) :=
  inferInstanceAs (Decidable (_ ∧ _))

/-- The cap itself is allowed. -/
theorem isPageSize_pageCap (settings : Settings) : IsPageSize settings settings.pageCap :=
  ⟨le_max_right _ _, le_rfl⟩

end ListParams

namespace ListQuery

open ListParams

variable {settings : Settings} {q : ListQuery} {p : ListParams}

/-- Parameters that are not refused were read. -/
theorem orRefuse_eq_ok_iff {x : Form.Checked ListParams} : orRefuse x = .ok p ↔ x = .ok p := by
  cases x <;> simp [orRefuse]

/-- The size of a page is looked for under its public name only. -/
theorem find_pageSize (q : ListQuery) :
    Form.find ["pageSize", "page_size"] q.toFields =
      ⟨"pageSize", (Text.nonBlank? q.pageSize).map .str⟩ := by
  unfold toFields wordField
  cases Text.nonBlank? q.pageIndex <;> cases Text.nonBlank? q.pageSize <;>
    cases Text.nonBlank? q.sortAscending <;> rfl

/-- A query string that leaves the size of the page out gets the default size as it is. -/
theorem pageSize_of_params_of_blank (h : q.params settings = .ok p)
    (hblank : Text.nonBlank? q.pageSize = none) : p.pageSize = settings.defaultPageSize := by
  have hsize := (read_eq_ok_iff.mp (orRefuse_eq_ok_iff.mp h)).pageSize
  rw [find_pageSize, hblank] at hsize
  exact (Form.Checked.ok.inj hsize).symm

/-- A query string that names the size of the page gets one that is allowed. -/
theorem isPageSize_of_params (h : q.params settings = .ok p)
    (hgiven : Text.nonBlank? q.pageSize ≠ none) : IsPageSize settings p.pageSize := by
  obtain ⟨size, hsize⟩ := Option.ne_none_iff_exists'.mp hgiven
  have hread := (read_eq_ok_iff.mp (orRefuse_eq_ok_iff.mp h)).pageSize
  rw [find_pageSize, hsize] at hread
  exact pageSize_of_asPageSize (Form.Slot.default_eq_ok_iff.mp hread)

/-- The parameters of a picker have a size that is allowed: those of the list are read once more, the
default size among them. -/
theorem isPageSize_of_lookupParams (h : q.lookupParams settings = .ok p) :
    IsPageSize settings p.pageSize := by
  unfold lookupParams at h
  obtain ⟨first, -, hread⟩ := bind_eq_ok_iff.mp h
  have hsecond := (readLookup_eq_ok_iff.mp (orRefuse_eq_ok_iff.mp hread)).1
  exact pageSize_of_asPageSize (Form.Slot.default_eq_ok_iff.mp (read_eq_ok_iff.mp hsecond).pageSize)

end ListQuery

namespace ListSpec

open ListParams

variable {spec : ListSpec} {settings : Settings} {q : ListQuery} {p : ListParams} {d : Directive}

/-- The list that is always the same compiles only if its size is not negative. -/
theorem nonneg_of_compile (hscope : spec.scope = .fixed) (h : spec.compile settings p = .ok d) :
    0 ≤ settings.maxPageSize := by
  unfold compile at h
  rw [if_pos hscope] at h
  obtain ⟨fixed, hfixed, -⟩ := bind_eq_ok_iff.mp h
  exact exists_fixedParams_iff.mp ⟨fixed, hfixed⟩

/-- The list that is always the same has the largest page. -/
theorem limit_of_fixed (hscope : spec.scope = .fixed) (h : spec.compile settings p = .ok d) :
    d.limit = settings.pageCap := by
  have hfixed := fixedParams_eq (nonneg_of_compile hscope h)
  unfold compile at h
  rw [if_pos hscope, hfixed, ok_bind] at h
  simp only [bind_eq_ok_iff, pure_eq_ok_iff] at h
  obtain ⟨field, -, nodes, -, rfl⟩ := h
  rfl

/-- The default size of pages is taken as it is: by a list of entities whose query string leaves the size
out. -/
structure TakesDefault (spec : ListSpec) (settings : Settings) (q : ListQuery) (p : ListParams) : Prop where
  chosen : spec.scope ≠ .fixed
  params : q.params settings = .ok p
  blank : Text.nonBlank? q.pageSize = none

/-- Whatever the settings, the query string and the specification, a directive is for a number of rows that
the settings allow, unless the default size is taken as it is; then it is for the default size.  The menu
compiles to a directive for an allowed number of rows exactly if the largest size in the settings is not
negative. -/
theorem limit_of_compile (hread : q.params settings = .ok p ∨ q.lookupParams settings = .ok p) :
    (∀ spec d, ListSpec.compile spec settings p = .ok d →
      (¬ spec.TakesDefault settings q p → IsPageSize settings d.limit) ∧
      (spec.TakesDefault settings q p → d.limit = settings.defaultPageSize)) ∧
    ((∃ d, MenuLine.listSpec.compile settings p = .ok d ∧ IsPageSize settings d.limit) ↔
      0 ≤ settings.maxPageSize) := by
  refine ⟨fun spec d hcompile => ⟨fun hgiven => ?_, fun htakes => ?_⟩, ?_⟩
  · by_cases hscope : spec.scope = .fixed
    · rw [limit_of_fixed hscope hcompile]
      exact isPageSize_pageCap settings
    · rw [(page_of_compile hscope hcompile).1]
      rcases hread with hparams | hlookup
      · exact ListQuery.isPageSize_of_params hparams fun hblank => hgiven ⟨hscope, hparams, hblank⟩
      · exact ListQuery.isPageSize_of_lookupParams hlookup
  · rw [(page_of_compile htakes.chosen hcompile).1]
    exact ListQuery.pageSize_of_params_of_blank htakes.params htakes.blank
  · constructor
    · rintro ⟨d, hcompile, -⟩
      exact nonneg_of_compile rfl hcompile
    · intro hnonneg
      exact ⟨_, MenuLine.compile_eq hnonneg p, isPageSize_pageCap settings⟩

/-- Settings whose default size is larger than the largest one. -/
def generous : Settings :=
  { Settings.standard "" "" with defaultPageSize := 5000 }

/-- A picker whose query string leaves the size out shows no more rows than the settings allow. -/
theorem limit_of_compile_picker : ∃ p, ListQuery.lookupParams generous default = .ok p ∧
    ∀ d, LookupSource.user.listSpec.compile generous p = .ok d → IsPageSize generous d.limit := by
  have hparams : ListQuery.params generous default =
      .ok ⟨1, 5000, none, true, none, none, none, none⟩ := rfl
  have hlookup : ListQuery.lookupParams generous default =
      .ok ⟨1, 1000, none, true, none, none, none, none⟩ := rfl
  refine ⟨_, hlookup, fun d hcompile => ?_⟩
  refine (((limit_of_compile (.inr hlookup)).1 _ d hcompile).1 fun htakes => ?_)
  cases hparams.symm.trans htakes.params

/-- A list of users whose query string leaves the size out is compiled to more rows than the settings allow
if the default size is larger, and the menu is not compiled at all if the largest size is negative. -/
theorem limit_exceeds_cap :
    (∃ p d, ListQuery.params generous default = .ok p ∧ User.listSpec.compile generous p = .ok d ∧
      d.limit = 5000 ∧ generous.pageCap = 1000) ∧
    ∀ p d, MenuLine.listSpec.compile { Settings.standard "" "" with maxPageSize := -1 } p ≠ .ok d := by
  have hparams : ListQuery.params generous default =
      .ok ⟨1, 5000, none, true, none, none, none, none⟩ := rfl
  have hcompile : User.listSpec.compile generous ⟨1, 5000, none, true, none, none, none, none⟩ =
      .ok ⟨[.notDeleted], "name", true, 5000, 0, []⟩ := rfl
  refine ⟨⟨_, _, hparams, hcompile, rfl, rfl⟩, fun p d h => ?_⟩
  exact absurd (nonneg_of_compile rfl h) (by decide)

end ListSpec

end Backoffice
