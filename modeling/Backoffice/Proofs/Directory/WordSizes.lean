import Mathlib
import Backoffice.Proofs.Directory.Serving
import Backoffice.Proofs.Directory.UserSelection

/-!
# Numbers that do not fit

Compiling a request checks its fields, but not its numbers: a filter or a selected row with a number that
does not fit 64 bits is compiled and fails when the list is carried out (`Tables.lists_resultsIf`).
Nothing else fails there: any other value is accepted by any column.
-/

namespace Backoffice

namespace ListSpec

variable {ρ : Type} {spec : ListSpec} {columns : ColumnMap ρ} {settings : Settings} {p : ListParams}
  {d : Directive} {nodes : List Node}

/-- The numbers of the equality filters fit 64 bits. -/
def FiltersFit (p : ListParams) : Prop :=
  ∀ equality, decodeEqualityFilters p.lookups = .ok equality →
    ∀ f ∈ equality, ∀ n ∈ f.matchValue, fitsWord n = true

/-- The numbers of the selected rows fit 64 bits, if the list has such. -/
def SelectionFits (spec : ListSpec) (p : ListParams) : Prop :=
  ∀ key ids, spec.scope = .picker key → decodeSelectedIds p.selectedIds = .ok ids →
    ∀ n ∈ ids, fitsWord n = true

/-- All numbers of the request fit 64 bits. -/
def NumbersFit (spec : ListSpec) (p : ListParams) : Prop :=
  (FiltersFit p ∧ spec.SelectionFits p) ∧
    fitsWord p.limit = true ∧ fitsWord p.offset = true

/-- A predicate of a request is safe, or it is that of an equality filter. -/
theorem Chained.isSafe_or (hserved : spec.IsServed columns) {equality : List EqualityFilter}
    {ranges : List DateRangeFilter} {days : List Node} (h : spec.Chained p nodes equality ranges days)
    {n : Node} (hn : n ∈ nodes) : n.IsSafe columns ∨ ∃ f ∈ equality, n = f.predicate := by
  rw [h.nodes_eq] at hn
  exact hserved.isSafe_or h.ranges_eq h.days_eq h.ranges_known hn

/-- The predicates of filters and search need no more than that the numbers of the filters fit. -/
theorem needsOnly_chain (hserved : spec.IsServed columns) (h : spec.chain p = .ok nodes) :
    Directive.NeedsOnly columns nodes (FiltersFit p) := by
  obtain ⟨equality, ranges, days, hchained⟩ := chain_eq_ok_iff.mp h
  have hfilter : ∀ f ∈ equality, f.predicate.IsRendered columns := by
    intro f hf
    obtain ⟨c, hc⟩ := hserved.fields _ (hchained.equality_known f hf)
    exact EqualityFilter.isRendered_predicate hc
  have hfits : FiltersFit p ↔ ∀ f ∈ equality, f.predicate.defect? = none := by
    unfold FiltersFit
    rw [hchained.equality_eq]
    simp only [Except.ok.injEq, forall_eq', EqualityFilter.defect?_predicate,
      Option.bind_eq_none_iff, Parameter.defect?_int_eq_none_iff, Option.mem_def]
  refine ⟨fun n hn => ?_, fun n hn e he => ?_, ?_⟩
  · rcases hchained.isSafe_or hserved hn with hsafe | ⟨f, hf, rfl⟩
    · exact (Node.isSafe_iff.mp hsafe).1
    · exact hfilter f hf
  · rcases hchained.isSafe_or hserved hn with hsafe | ⟨f, hf, rfl⟩
    · rw [(Node.isSafe_iff.mp hsafe).2] at he
      cases he
    · rw [EqualityFilter.defect?_predicate, Option.bind_eq_some_iff] at he
      obtain ⟨k, -, hk⟩ := he
      exact Parameter.eq_overflow_of_defect?_int hk
  · rw [Node.defectIn?_eq_none_iff, hfits]
    constructor
    · intro hnone f hf
      refine hnone _ ?_
      rw [hchained.nodes_eq]
      simp only [List.mem_append, List.mem_map]
      exact Or.inl (Or.inl (Or.inr ⟨f, hf, rfl⟩))
    · intro hnone n hn
      rcases hchained.isSafe_or hserved hn with hsafe | ⟨f, hf, rfl⟩
      · exact (Node.isSafe_iff.mp hsafe).2
      · exact hnone f hf

/-- The predicates of a list need no more than that the numbers of filters and selected rows fit. -/
theorem needsOnly_predicates (hserved : spec.IsServed columns) (hscope : spec.scope ≠ .fixed)
    (h : spec.predicates p = .ok nodes) :
    Directive.NeedsOnly columns nodes (FiltersFit p ∧ spec.SelectionFits p) := by
  cases hkind : spec.scope with
  | fixed => exact absurd hkind hscope
  | free =>
    have hselection : spec.SelectionFits p := by
      intro key ids hpicker
      rw [hkind] at hpicker
      cases hpicker
    unfold predicates at h
    rw [hkind] at h
    rw [and_iff_left_iff_imp.mpr fun _ => hselection]
    exact needsOnly_chain hserved h
  | picker key =>
    obtain ⟨chained, ids, hchain, hids, rfl⟩ := (predicates_eq_ok_iff hkind).mp h
    have hneeds := needsOnly_chain hserved hchain
    have hselection : spec.SelectionFits p ↔ ∀ n ∈ ids, fitsWord n = true := by
      unfold SelectionFits
      rw [hkind, hids]
      constructor
      · intro hfits
        exact hfits key ids rfl rfl
      · rintro hfits _ _ ⟨⟩ ⟨⟩
        exact hfits
    by_cases hnil : ids = []
    · rw [if_pos hnil, and_iff_left_iff_imp.mpr fun _ => hselection.mpr (by simp [hnil])]
      exact hneeds
    · rw [if_neg hnil]
      obtain ⟨c, hc⟩ := hserved.key hkind
      rw [hselection]
      exact hneeds.orSelected hc

/-- A compiled request on a table that serves it gives a listing if all its numbers fit 64 bits, and
overflows if not. -/
theorem list_resultsIf (hserved : spec.IsServed columns) (hscope : spec.scope ≠ .fixed)
    (h : spec.compile settings p = .ok d) (rows : List ρ) :
    Directive.ResultsIf (d.list columns rows) (spec.NumbersFit p) := by
  obtain ⟨field, nodes, hfield, hnodes, rfl⟩ := (compile_eq_ok_iff hscope).mp h
  exact Directive.list_of_needsOnly (needsOnly_predicates hserved hscope hnodes)
    (Directive.exists_sortKeys (exists_column_of_sortField hserved hfield) hserved.thenBy)

end ListSpec

/-- What is done with a result does not change whether there is one. -/
theorem Directive.ResultsIf.map {α β : Type} {x : Except Failure α} {fits : Prop}
    (h : ResultsIf x fits) (f : α → β) : ResultsIf (f <$> x) fits := by
  constructor
  · intro hfits
    obtain ⟨a, rfl⟩ := h.1 hfits
    exact ⟨f a, rfl⟩
  · intro hunfit
    rw [h.2 hunfit]
    rfl

namespace Tables

/-- A request for the rows with a number, given as it is coded. -/
def withNumber (number : String) : ListParams where
  pageIndex := 1
  pageSize := 1
  sort := none
  sortAscending := true
  search := none
  lookups := some ("[\x7b\"name\": \"id\", \"id\": " ++ number ++ "\x7d]")
  ranges := none
  selectedIds := none

/-- The directive of a request for the rows with a number, whatever is listed. -/
theorem compile_withNumber {number : String} {n : Int} (settings : Settings)
    (h : decodeEqualityFilters (withNumber number).lookups = .ok [⟨"id", some n⟩]) :
    let d : Directive := ⟨[.notDeleted, .test "id" .eq (.int n)], "name", true, 1, 0, []⟩
    User.listSpec.compile settings (withNumber number) = .ok d ∧
      ∀ source : LookupSource, source.listSpec.compile settings (withNumber number) = .ok d := by
  intro d
  have hknown : ∀ f ∈ [EqualityFilter.mk "id" (some n)], f.fieldName = "id" := by
    simp
  have hchain : ∀ spec : ListSpec, spec.base = [.notDeleted] → "id" ∈ spec.fields →
      spec.chain (withNumber number) = .ok d.predicates := by
    intro spec hbase hfield
    refine ListSpec.chain_eq_ok_iff.mpr ⟨[⟨"id", some n⟩], [], [], h, rfl, ?_, by simp, .nil, ?_⟩
    · intro f hf
      rw [hknown f hf]
      exact hfield
    · rw [hbase]
      rfl
  constructor
  · refine (ListSpec.compile_eq_ok_iff Scope.noConfusion).mpr ⟨"name", d.predicates, rfl, ?_, rfl⟩
    exact hchain _ rfl (by decide)
  · intro source
    have hsource : "id" ∈ source.listSpec.fields ∧ source.listSpec.sortField none = .ok "name" ∧
        source.listSpec.thenBy = [] := by
      cases source <;> exact ⟨by decide, rfl, rfl⟩
    obtain ⟨hfield, hsort, hthen⟩ := hsource
    refine (ListSpec.compile_eq_ok_iff source.scope_ne_fixed).mpr ⟨"name", d.predicates, hsort, ?_, ?_⟩
    · exact (ListSpec.predicates_eq_ok_iff source.scope_eq).mpr
        ⟨_, [], hchain _ source.base_eq hfield, rfl, rfl⟩
    · rw [hthen]
      rfl

/-- A compiled list of users, or of any picker, is carried out on any tables if all numbers of the
request fit 64 bits: those of the equality filters, of the selected rows, and of the page.  If one of them
does not, it is not noticed before the list is carried out, which then overflows. -/
theorem lists_resultsIf (t : Tables) (settings : Settings) (p : ListParams) (path : AccessPath) :
    (∀ d, User.listSpec.compile settings p = .ok d →
      Directive.ResultsIf (t.listUsers d path) (User.listSpec.NumbersFit p)) ∧
    ∀ (source : LookupSource) d, source.listSpec.compile settings p = .ok d →
      Directive.ResultsIf (t.lookup source d path) (source.listSpec.NumbersFit p) := by
  constructor
  · intro d hd
    exact ListSpec.list_resultsIf User.isServed_listSpec Scope.noConfusion hd _
  · intro source d hd
    obtain ⟨ρ, number, columns, rows, view, hpicker⟩ := exists_isPickerOf t source
    rw [hpicker.lookup_eq]
    exact (ListSpec.list_resultsIf hpicker.served source.scope_ne_fixed hd _).map _

/-- The user and the status with the number one are listed. -/
theorem lists_resultsIf_withNumber_one :
    let settings := Settings.standard "" ""
    let t : Tables := ⟨[], [User.named 1 "Anna" "a@b.c" none], [], []⟩
    (∃ d l, User.listSpec.compile settings (withNumber "1") = .ok d ∧ t.listUsers d = .ok l) ∧
      ∃ d l, LookupSource.userStatus.listSpec.compile settings (withNumber "1") = .ok d ∧
        t.lookup .userStatus d = .ok l := by
  intro settings t
  have hdecode : decodeEqualityFilters (withNumber "1").lookups = .ok [⟨"id", some 1⟩] := by
    decide +kernel
  have hfilters : ListSpec.FiltersFit (withNumber "1") := by
    intro equality heq
    rw [hdecode] at heq
    cases heq
    decide
  have hselected : ListSpec.SelectionFits LookupSource.userStatus.listSpec (withNumber "1") := by
    rintro key ids - hids
    cases hids
    simp [distinct]
  obtain ⟨hcompile, hcompileSource⟩ := compile_withNumber settings hdecode
  obtain ⟨hlist, hlookup⟩ := lists_resultsIf t settings (withNumber "1") .byNumber
  obtain ⟨l, hl⟩ := (hlist _ hcompile).1 ⟨⟨hfilters, nofun⟩, by decide, by decide⟩
  obtain ⟨l', hl'⟩ := (hlookup .userStatus _ (hcompileSource _)).1
    ⟨⟨hfilters, hselected⟩, by decide, by decide⟩
  exact ⟨⟨_, l, hcompile, hl⟩, _, l', hcompileSource _, hl'⟩

/-- A request for the user with the number `2 ^ 63` is compiled, and overflows on any tables. -/
theorem listUsers_overflow_withNumber :
    ∃ d, User.listSpec.compile (Settings.standard "" "") (withNumber "9223372036854775808") = .ok d ∧
      ∀ (t : Tables) (path : AccessPath), t.listUsers d path = .error (.overflow .parameter) := by
  have hdecode : decodeEqualityFilters (withNumber "9223372036854775808").lookups =
      .ok [⟨"id", some (2 ^ 63)⟩] := by
    decide +kernel
  have hcompile := (compile_withNumber (Settings.standard "" "") hdecode).1
  refine ⟨_, hcompile, fun t path => ?_⟩
  refine (ListSpec.list_resultsIf User.isServed_listSpec Scope.noConfusion hcompile _).2 ?_
  rintro ⟨⟨hfilters, -⟩, -⟩
  have hfits := hfilters _ hdecode _ (List.mem_singleton_self _) _ rfl
  exact absurd hfits (by decide)

end Tables

end Backoffice
