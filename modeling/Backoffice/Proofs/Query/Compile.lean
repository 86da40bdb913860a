import Mathlib
import Backoffice.Proofs.Outcome
import Backoffice.Proofs.Query.Params
import Backoffice.Query.Directive

/-!
# Compiled requests

What a directive is made of when a specification compiles list parameters: the decoded filters, the
predicates built from them, the sort field, and the page.
-/

namespace Backoffice

/-- The equality filters that are decoded have a value. -/
theorem isSet_of_decodeEqualityFilters {raw : Option String} {filters : List EqualityFilter}
    (h : decodeEqualityFilters raw = .ok filters) : ∀ f ∈ filters, f.isSet = true := by
  unfold decodeEqualityFilters at h
  simp only [bind_eq_ok_iff, pure_eq_ok_iff] at h
  obtain ⟨items, -, all, -, rfl⟩ := h
  intro f hf
  exact List.of_mem_filter hf

/-- The date range filters that are decoded select something. -/
theorem isApplicable_of_decodeDateRanges {raw : Option String} {filters : List DateRangeFilter}
    (h : decodeDateRanges raw = .ok filters) : ∀ f ∈ filters, f.isApplicable = true := by
  unfold decodeDateRanges at h
  simp only [bind_eq_ok_iff, pure_eq_ok_iff] at h
  obtain ⟨items, -, all, -, rfl⟩ := h
  intro f hf
  exact List.of_mem_filter hf

/-- The predicates of a list, when all filters select something: those that always hold, one for each
filter, and one for the search. -/
theorem buildPredicates_eq_ok_iff {base : List Node} {searchFields : List String}
    {equality : List EqualityFilter} {ranges : List DateRangeFilter} {search : Option String}
    {nodes : List Node} (hequality : ∀ f ∈ equality, f.isSet = true)
    (hranges : ∀ f ∈ ranges, f.isApplicable = true) :
    buildPredicates base searchFields equality ranges search = .ok nodes ↔
      ∃ days, List.Forall₂ (fun f n => DateRangeFilter.predicate f = .ok n) ranges days ∧
        nodes = base ++ equality.map (·.predicate) ++ days ++
          ((Text.nonBlank? search).bind (Node.containsAny searchFields)).toList := by
  unfold buildPredicates
  rw [List.filter_eq_self.mpr hequality, List.filter_eq_self.mpr hranges]
  simp only [bind_eq_ok_iff, pure_eq_ok_iff, mapM_eq_ok_iff]
  constructor
  · rintro ⟨days, hdays, rfl⟩
    exact ⟨days, hdays, rfl⟩
  · rintro ⟨days, hdays, rfl⟩
    exact ⟨days, hdays, rfl⟩

namespace ListSpec

variable {spec : ListSpec} {settings : Settings} {p : ListParams} {d : Directive} {nodes : List Node}

/-- A refusal is the only failure of a step that may be refused. -/
theorem refuse_eq_ok_iff {α : Type} {x : Except Refusal α} {a : α} : refuse x = .ok a ↔ x = .ok a := by
  cases x <;> simp [refuse]

/-- Names pass the check if all of them are known fields. -/
theorem checkFields_eq_ok_iff {use : FieldUse} {names : List String} :
    spec.checkFields use names = .ok () ↔ ∀ name ∈ names, name ∈ spec.fields := by
  unfold checkFields
  split
  · rename_i name hfind
    have hunknown := List.find?_some hfind
    refine iff_of_false (fun h => nomatch h) fun h => ?_
    exact absurd (h name (List.mem_of_find?_eq_some hfind)) (of_decide_eq_true hunknown)
  · rename_i hfind
    rw [List.find?_eq_none] at hfind
    refine iff_of_true rfl fun name hname => ?_
    simpa using hfind name hname

/-! ### Predicates -/

/-- What the predicates of a request are made of: its decoded filters, which are on known fields, the
predicates of its days, and its search. -/
structure Chained (spec : ListSpec) (p : ListParams) (nodes : List Node)
    (equality : List EqualityFilter) (ranges : List DateRangeFilter) (days : List Node) : Prop where
  equality_eq : decodeEqualityFilters p.lookups = .ok equality
  ranges_eq : decodeDateRanges p.ranges = .ok ranges
  equality_known : ∀ f ∈ equality, f.fieldName ∈ spec.fields
  ranges_known : ∀ f ∈ ranges, f.fieldName ∈ spec.fields
  days_eq : List.Forall₂ (fun f n => DateRangeFilter.predicate f = .ok n) ranges days
  nodes_eq : nodes = spec.base ++ equality.map (·.predicate) ++ days ++
    ((Text.nonBlank? p.search).bind (Node.containsAny spec.searchFields)).toList

/-- The filters and the search of a request give predicates exactly if all filters are decoded, are on
known fields, and select days in the calendar. -/
theorem chain_eq_ok_iff :
    spec.chain p = .ok nodes ↔ ∃ equality ranges days, spec.Chained p nodes equality ranges days := by
  unfold chain
  simp only [bind_eq_ok_iff, refuse_eq_ok_iff]
  constructor
  · rintro ⟨equality, hequality, ranges, hranges, ⟨⟩, hlookup, ⟨⟩, hrange, hbuild⟩
    have hknown := List.forall_mem_map.mp (checkFields_eq_ok_iff.mp hlookup)
    have hknown' := List.forall_mem_map.mp (checkFields_eq_ok_iff.mp hrange)
    split at hbuild
    · rename_i built hbuilt
      cases hbuild
      obtain ⟨days, hdays, hnodes⟩ := (buildPredicates_eq_ok_iff
        (isSet_of_decodeEqualityFilters hequality)
        (isApplicable_of_decodeDateRanges hranges)).mp hbuilt
      exact ⟨equality, ranges, days, hequality, hranges, hknown, hknown', hdays, hnodes⟩
    · cases hbuild
  · rintro ⟨equality, ranges, days, h⟩
    have hbuilt := (buildPredicates_eq_ok_iff (isSet_of_decodeEqualityFilters h.equality_eq)
      (isApplicable_of_decodeDateRanges h.ranges_eq)).mpr ⟨days, h.days_eq, h.nodes_eq⟩
    refine ⟨equality, h.equality_eq, ranges, h.ranges_eq,
      (), checkFields_eq_ok_iff.mpr (List.forall_mem_map.mpr h.equality_known),
      (), checkFields_eq_ok_iff.mpr (List.forall_mem_map.mpr h.ranges_known), ?_⟩
    rw [hbuilt]

/-- The predicates of a picker are those of any list, beside the selected rows if there are such. -/
theorem predicates_eq_ok_iff {key : String} (hscope : spec.scope = .picker key) :
    spec.predicates p = .ok nodes ↔ ∃ chained ids, spec.chain p = .ok chained ∧
      decodeSelectedIds p.selectedIds = .ok ids ∧
      nodes = if ids = [] then chained
        else [.any [.all chained, .test key .within (.list (ids.map .int))]] := by
  unfold predicates
  rw [hscope]
  simp only [bind_eq_ok_iff, refuse_eq_ok_iff]
  constructor
  · rintro ⟨chained, hchain, ids, hids, h⟩
    refine ⟨chained, ids, hchain, hids, ?_⟩
    split at h
    · rename_i hnil
      rw [if_pos hnil]
      exact (pure_eq_ok_iff.mp h).symm
    · rename_i hnil
      rw [if_neg hnil]
      exact (pure_eq_ok_iff.mp h).symm
  · rintro ⟨chained, ids, hchain, hids, rfl⟩
    refine ⟨chained, hchain, ids, hids, ?_⟩
    split <;> rfl

/-! ### Directives -/

/-- A list whose caller chooses is compiled from the predicates and the sort field of the request. -/
theorem compile_eq_ok_iff (hscope : spec.scope ≠ .fixed) :
    spec.compile settings p = .ok d ↔ ∃ field nodes, spec.sortField p.sort = .ok field ∧
      spec.predicates p = .ok nodes ∧
      d = ⟨nodes, field, p.sortAscending, p.limit, p.offset, spec.thenBy⟩ := by
  unfold compile
  rw [if_neg hscope]
  simp only [bind_eq_ok_iff, pure_eq_ok_iff, Except.ok.injEq, exists_eq_left']
  constructor
  · rintro ⟨field, hfield, nodes, hnodes, rfl⟩
    exact ⟨field, nodes, hfield, hnodes, rfl⟩
  · rintro ⟨field, nodes, hfield, hnodes, rfl⟩
    exact ⟨field, hfield, nodes, hnodes, rfl⟩

/-- What is known of the directive of a free list. -/
structure Compiled (spec : ListSpec) (p : ListParams) (d : Directive) (equality : List EqualityFilter)
    (ranges : List DateRangeFilter) (days : List Node) : Prop where
  equality_eq : decodeEqualityFilters p.lookups = .ok equality
  ranges_eq : decodeDateRanges p.ranges = .ok ranges
  days_eq : List.Forall₂ (fun f n => DateRangeFilter.predicate f = .ok n) ranges days
  predicates_eq : d.predicates = spec.base ++ equality.map (·.predicate) ++ days ++
    ((Text.nonBlank? p.search).bind (Node.containsAny spec.searchFields)).toList
  sort_eq : spec.sortField p.sort = .ok d.sortField
  ascending_eq : d.sortAscending = p.sortAscending
  limit_eq : d.limit = p.limit
  offset_eq : d.offset = p.offset
  thenBy_eq : d.thenBy = spec.thenBy

/-- A free list compiles to the predicates of its decoded filters and its search. -/
theorem exists_compiled {spec : ListSpec} {settings : Settings} {p : ListParams} {d : Directive}
    (hscope : spec.scope = .free) (h : spec.compile settings p = .ok d) :
    ∃ equality ranges days, spec.Compiled p d equality ranges days := by
  have hfree : spec.scope ≠ .fixed := by
    rw [hscope]
    exact Scope.noConfusion
  obtain ⟨field, nodes, hsort, hnodes, rfl⟩ := (compile_eq_ok_iff hfree).mp h
  unfold predicates at hnodes
  rw [hscope] at hnodes
  obtain ⟨equality, ranges, days, hchained⟩ := chain_eq_ok_iff.mp hnodes
  exact ⟨equality, ranges, days, hchained.equality_eq, hchained.ranges_eq, hchained.days_eq,
    hchained.nodes_eq, hsort, rfl, rfl, rfl, rfl⟩

/-- The page of a directive is the page of the parameters. -/
theorem page_of_compile {spec : ListSpec} {settings : Settings} {p : ListParams} {d : Directive}
    (hscope : spec.scope ≠ .fixed) (h : spec.compile settings p = .ok d) :
    d.limit = p.limit ∧ d.offset = p.offset := by
  obtain ⟨field, nodes, -, -, rfl⟩ := (compile_eq_ok_iff hscope).mp h
  exact ⟨rfl, rfl⟩

/-- Only the offset of a directive depends on the page that is asked for. -/
theorem compile_page {spec : ListSpec} {settings : Settings} {p : ListParams} {d : Directive}
    (hscope : spec.scope ≠ .fixed) (h : spec.compile settings p = .ok d) (i : Int) :
    spec.compile settings { p with pageIndex := i } = .ok { d with offset := (i - 1) * p.pageSize } := by
  rw [compile_eq_ok_iff hscope] at h ⊢
  obtain ⟨field, nodes, hsort, hnodes, rfl⟩ := h
  exact ⟨field, nodes, hsort, hnodes, rfl⟩

/-! ### The list that is always the same -/

/-- The list that is always the same is the first page of the largest size. -/
theorem fixedParams_eq (h : 0 ≤ settings.maxPageSize) :
    fixedParams settings = .ok ⟨1, settings.pageCap, none, true, none, none, none, none⟩ := by
  have hindex : ListParams.asPageIndex settings (.int 1) = .ok 1 :=
    ListParams.asPageIndex_int ⟨le_refl _, by rw [sub_self, zero_mul]; decide⟩
  have hsize : ListParams.asPageSize settings (.int settings.maxPageSize) = .ok settings.pageCap := by
    unfold ListParams.asPageSize Form.asInt Settings.pageCap
    rw [ok_bind, if_neg (not_lt.mpr h), min_self]
  have hread : ListParams.read settings [("page_index", .int 1), ("page_size", .int settings.maxPageSize)] =
      .ok ⟨1, settings.pageCap, none, true, none, none, none, none⟩ :=
    ListParams.read_eq_ok_iff.mpr ⟨Form.Slot.default_eq_ok_iff.mpr hindex,
      Form.Slot.default_eq_ok_iff.mpr hsize, rfl, rfl, rfl, rfl, rfl, rfl⟩
  unfold fixedParams
  rw [hread]

end ListSpec

end Backoffice
