import Mathlib
import Backoffice.Menu.List
import Backoffice.Proofs.Directory.WordSizes
import Backoffice.Proofs.Table.Parts

/-!
# Fields that the tables know

Specifications and columns of tables are declared apart from each other.  For every list of the service
they agree: what a specification compiles, from any parameters, mentions only columns of its table, and of
the fields that a caller may name only those that the specification allows.
-/

namespace Backoffice

/-- The directive mentions only fields that the columns know and operators that tables can answer, at any
depth of its predicates and in its order. -/
structure Directive.MentionsOnly {ρ : Type} (d : Directive) (columns : ColumnMap ρ) : Prop where
  test_known : ∀ n ∈ d.predicates, ∀ field op v, (Node.test field op v).IsPart n →
    (∃ c, columns.lookup field = some c) ∧ op ∈ Op.all
  not_foreign : ∀ n ∈ d.predicates, ∀ kind, ¬ (Node.foreign kind).IsPart n
  order_known : ∀ f ∈ d.sortField :: d.thenBy, ∃ c, columns.lookup f = some c

namespace ListSpec

variable {ρ : Type} {spec : ListSpec} {columns : ColumnMap ρ} {settings : Settings} {p : ListParams}
  {d : Directive} {nodes : List Node}

/-- The lists of the service, each with the columns of the table that is listed. -/
inductive IsListed : ∀ {ρ : Type}, ListSpec → ColumnMap ρ → Prop
  | users : IsListed User.listSpec User.columns
  | statusPicker : IsListed LookupSource.userStatus.listSpec UserStatus.columns
  | userPicker : IsListed LookupSource.user.listSpec User.pickerColumns
  | modulePicker : IsListed LookupSource.menuModule.listSpec MenuModule.columns
  | menu : IsListed MenuLine.listSpec MenuLine.columns

/-- What the directive has of the caller is on fields that the specification allows: every predicate that
is not in the base of the specification, the sort fields, and whatever the parameters name where the
caller of the list may choose. -/
structure Allows (spec : ListSpec) (p : ListParams) (d : Directive) : Prop where
  test_allowed : ∀ n ∈ d.predicates, ∀ field op v, (Node.test field op v).IsPart n →
    (∃ b ∈ spec.base, (Node.test field op v).IsPart b) ∨ field ∈ spec.fields
  order_allowed : ∀ f ∈ d.sortField :: d.thenBy, f ∈ spec.fields
  sort_chosen : spec.scope ≠ .fixed → ∀ f, Text.nonBlank? p.sort = some f →
    d.sortField = f ∧ f ∈ spec.fields
  equality_chosen : spec.scope ≠ .fixed → ∀ equality, decodeEqualityFilters p.lookups = .ok equality →
    ∀ f ∈ equality, f.fieldName ∈ spec.fields
  ranges_chosen : spec.scope ≠ .fixed → ∀ ranges, decodeDateRanges p.ranges = .ok ranges →
    ∀ f ∈ ranges, f.fieldName ∈ spec.fields

/-! ### Compiling -/

/-- A directive is compiled from parameters of a request: those of the caller, if the caller chooses. -/
theorem exists_params_of_compile (h : spec.compile settings p = .ok d) :
    ∃ q, (spec.scope ≠ .fixed → q = p) ∧ spec.sortField q.sort = .ok d.sortField ∧
      spec.predicates q = .ok d.predicates ∧ d.thenBy = spec.thenBy := by
  by_cases hscope : spec.scope = .fixed
  · unfold compile at h
    rw [if_pos hscope] at h
    simp only [bind_eq_ok_iff, pure_eq_ok_iff] at h
    obtain ⟨q, -, field, hfield, nodes, hnodes, rfl⟩ := h
    exact ⟨q, fun hfree => absurd hscope hfree, hfield, hnodes, rfl⟩
  · obtain ⟨field, nodes, hfield, hnodes, rfl⟩ := (compile_eq_ok_iff hscope).mp h
    exact ⟨p, fun _ => rfl, hfield, hnodes, rfl⟩

/-- A list whose caller chooses has the filters and the search of the caller among its predicates. -/
theorem exists_chain_of_predicates (hscope : spec.scope ≠ .fixed) (h : spec.predicates p = .ok nodes) :
    ∃ chained, spec.chain p = .ok chained ∧ ∀ n ∈ nodes, n ∈ chained ∨
      ∃ key v, spec.scope = .picker key ∧ n = .any [.all chained, .test key .within v] := by
  cases hkind : spec.scope with
  | fixed => exact absurd hkind hscope
  | free =>
    unfold predicates at h
    rw [hkind] at h
    exact ⟨nodes, h, fun n hn => Or.inl hn⟩
  | picker key =>
    obtain ⟨chained, ids, hchain, -, rfl⟩ := (predicates_eq_ok_iff hkind).mp h
    refine ⟨chained, hchain, fun n hn => ?_⟩
    split at hn
    · exact Or.inl hn
    · exact Or.inr ⟨key, _, rfl, List.mem_singleton.mp hn⟩

/-- All predicates of a table that serves the list have conditions. -/
theorem isRendered_of_predicates (hserved : spec.IsServed columns) (h : spec.predicates p = .ok nodes) :
    ∀ n ∈ nodes, n.IsRendered columns := by
  by_cases hscope : spec.scope = .fixed
  · unfold predicates at h
    rw [hscope] at h
    cases h
    exact fun n hn => (Node.isSafe_iff.mp (hserved.base n hn)).1
  · exact (needsOnly_predicates hserved hscope h).rendered

/-- A predicate of filters and search is one of the base, or on allowed fields. -/
theorem Chained.isOn {equality : List EqualityFilter} {ranges : List DateRangeFilter} {days : List Node}
    (h : spec.Chained p nodes equality ranges days) (hsearch : ∀ f ∈ spec.searchFields, f ∈ spec.fields)
    {n : Node} (hn : n ∈ nodes) : n ∈ spec.base ∨ n.IsOn spec.fields := by
  rw [h.nodes_eq, List.mem_append, List.mem_append, List.mem_append, List.mem_map, Option.mem_toList,
    Option.bind_eq_some_iff] at hn
  rcases hn with ((hbase | ⟨f, hf, rfl⟩) | hday) | ⟨term, -, hfound⟩
  · exact Or.inl hbase
  · exact Or.inr (EqualityFilter.isOn_predicate (h.equality_known f hf))
  · obtain ⟨i, hi, rfl⟩ := List.getElem_of_mem hday
    have hlen := h.days_eq.length_eq
    have hin := List.getElem_mem (hlen ▸ hi)
    exact Or.inr (DateRangeFilter.isOn_predicate (h.ranges_known _ hin)
      (isApplicable_of_decodeDateRanges h.ranges_eq _ hin) (h.days_eq.get (hlen ▸ hi) hi))
  · exact Or.inr (Node.isOn_containsAny hsearch hfound)

/-- A single predicate of a request is one of the base, or on an allowed field. -/
theorem test_allowed_of_predicates (hmentioned : ∀ f ∈ spec.mentioned, f ∈ spec.fields)
    (h : spec.predicates p = .ok nodes) {n : Node} (hn : n ∈ nodes) {field : String} {op : Op} {v : Operand}
    (hpart : (Node.test field op v).IsPart n) :
    (∃ b ∈ spec.base, (Node.test field op v).IsPart b) ∨ field ∈ spec.fields := by
  by_cases hscope : spec.scope = .fixed
  · unfold predicates at h
    rw [hscope] at h
    cases h
    exact Or.inl ⟨n, hn, hpart⟩
  · obtain ⟨chained, hchain, hnodes⟩ := exists_chain_of_predicates hscope h
    obtain ⟨equality, ranges, days, hchained⟩ := chain_eq_ok_iff.mp hchain
    have hallowed : ∀ m ∈ chained, (Node.test field op v).IsPart m →
        (∃ b ∈ spec.base, (Node.test field op v).IsPart b) ∨ field ∈ spec.fields := by
      intro m hm hpart
      rcases hchained.isOn (fun f hf => hmentioned f (mem_mentioned_of_mem_searchFields hf)) hm with
        hbase | hon
      · exact Or.inl ⟨m, hbase, hpart⟩
      · exact Or.inr (hon field op v hpart)
    rcases hnodes n hn with hin | ⟨key, v', hkey, rfl⟩
    · exact hallowed n hin hpart
    · -- the selected rows are an alternative to the filters, so the predicate is below one of the two
      cases hpart with
      | any hside hpart =>
        rw [List.mem_cons, List.mem_singleton] at hside
        rcases hside with rfl | rfl
        · cases hpart with
          | all hin hpart => exact hallowed _ hin hpart
        · cases Node.isPart_test_iff.mp hpart
          exact Or.inr (hmentioned field (key_mem_mentioned hkey))

/-- A directive orders by fields that the specification mentions. -/
theorem order_mentioned_of_compile (h : spec.compile settings p = .ok d) :
    ∀ f ∈ d.sortField :: d.thenBy, f ∈ spec.mentioned := by
  obtain ⟨q, -, hsort, -, hthen⟩ := exists_params_of_compile h
  rw [hthen]
  exact List.forall_mem_cons.mpr
    ⟨mem_mentioned_of_sortField hsort, fun f hf => mem_mentioned_of_mem_thenBy hf⟩

/-- A field that the caller names is sorted by, if it is allowed. -/
theorem sortField_of_nonBlank? {sort : Option String} {field f : String}
    (h : spec.sortField sort = .ok field) (hf : Text.nonBlank? sort = some f) : field = f ∧ f ∈ spec.fields := by
  unfold sortField at h
  rw [hf] at h
  by_cases hin : f ∈ spec.fields
  · simp only [if_pos hin] at h
    exact ⟨(Except.ok.inj h).symm, hin⟩
  · simp only [if_neg hin] at h
    cases h

/-- Where the caller chooses, the filters and the search are those of the caller. -/
theorem exists_chained_of_compile (hscope : spec.scope ≠ .fixed) (h : spec.compile settings p = .ok d) :
    ∃ chained equality ranges days, spec.Chained p chained equality ranges days := by
  obtain ⟨q, hq, -, hnodes, -⟩ := exists_params_of_compile h
  obtain rfl := hq hscope
  obtain ⟨chained, hchain, -⟩ := exists_chain_of_predicates hscope hnodes
  exact ⟨chained, chain_eq_ok_iff.mp hchain⟩

/-! ### The lists of the service -/

/-- Every table serves its list. -/
theorem IsListed.isServed (h : spec.IsListed columns) : spec.IsServed columns := by
  cases h with
  | users => exact User.isServed_listSpec
  | statusPicker => exact isServed_of_isSome rfl (by decide)
  | userPicker => exact User.isServed_picker
  | modulePicker => exact isServed_of_isSome rfl (by decide)
  | menu =>
    have hmentioned : ∀ f ∈ MenuLine.listSpec.mentioned, (MenuLine.columns.lookup f).isSome = true := by
      decide
    refine ⟨?_, fun f hf => Option.isSome_iff_exists.mp (hmentioned f hf)⟩
    refine List.forall_mem_cons.mpr ⟨Node.isSafe_test rfl rfl rfl, ?_⟩
    exact List.forall_mem_singleton.mpr (Node.isSafe_test rfl rfl rfl)

/-- All that a list speaks of by itself is allowed to its callers too. -/
theorem IsListed.mentioned_allowed (h : spec.IsListed columns) : ∀ f ∈ spec.mentioned, f ∈ spec.fields := by
  cases h <;> decide

/-- The order of what a list compiles is by known columns. -/
theorem IsListed.order_known (hlisted : spec.IsListed columns) (h : spec.compile settings p = .ok d) :
    ∀ f ∈ d.sortField :: d.thenBy, ∃ c, columns.lookup f = some c :=
  fun f hf => hlisted.isServed.mentioned f (order_mentioned_of_compile h f hf)

/-- All predicates of what a list compiles have conditions. -/
theorem IsListed.isRendered (hlisted : spec.IsListed columns) (h : spec.compile settings p = .ok d) :
    ∀ n ∈ d.predicates, n.IsRendered columns := by
  obtain ⟨q, -, -, hnodes, -⟩ := exists_params_of_compile h
  exact isRendered_of_predicates hlisted.isServed hnodes

/-- What a list compiles mentions only columns of its table: the parts of what has a condition have one. -/
theorem IsListed.mentionsOnly (hlisted : spec.IsListed columns) (h : spec.compile settings p = .ok d) :
    d.MentionsOnly columns where
  test_known n hn _ _ _ hpart :=
    (Node.IsRendered.of_isPart hpart (hlisted.isRendered h n hn)).exists_column
  not_foreign n hn kind hpart :=
    Node.not_isRendered_foreign kind (Node.IsRendered.of_isPart hpart (hlisted.isRendered h n hn))
  order_known := hlisted.order_known h

/-- What a list compiles keeps to the fields that the caller may name. -/
theorem IsListed.allows (hlisted : spec.IsListed columns) (h : spec.compile settings p = .ok d) :
    spec.Allows p d where
  test_allowed n hn field op v hpart := by
    obtain ⟨q, -, -, hnodes, -⟩ := exists_params_of_compile h
    exact test_allowed_of_predicates hlisted.mentioned_allowed hnodes hn hpart
  order_allowed f hf := hlisted.mentioned_allowed f (order_mentioned_of_compile h f hf)
  sort_chosen hscope f hf := by
    obtain ⟨q, hq, hsort, -⟩ := exists_params_of_compile h
    obtain rfl := hq hscope
    exact sortField_of_nonBlank? hsort hf
  equality_chosen hscope equality hequality := by
    obtain ⟨chained, equality', ranges, days, hchained⟩ := exists_chained_of_compile hscope h
    cases hequality.symm.trans hchained.equality_eq
    exact hchained.equality_known
  ranges_chosen hscope ranges hranges := by
    obtain ⟨chained, equality, ranges', days, hchained⟩ := exists_chained_of_compile hscope h
    cases hranges.symm.trans hchained.ranges_eq
    exact hchained.ranges_known

/-- Whatever the parameters, what a list compiles mentions only columns of its table, so that it has
conditions and an order there, and keeps to the fields that the caller may name. -/
theorem mentionsOnly_of_compile (hlisted : spec.IsListed columns)
    (h : spec.compile settings p = .ok d) :
    d.MentionsOnly columns ∧ spec.Allows p d ∧
      (∃ conditions, Node.conditions columns d.predicates = .ok conditions) ∧
      ∃ keys, d.sortKeys columns = .ok keys := by
  have horder := hlisted.order_known h
  refine ⟨hlisted.mentionsOnly h, hlisted.allows h, Node.exists_conditions_iff.mpr (hlisted.isRendered h), ?_⟩
  exact Directive.exists_sortKeys (horder _ List.mem_cons_self) fun f hf =>
    horder f (List.mem_cons_of_mem _ hf)

/-- A request for the users of a status whose name contains a letter, by role, beside a selected row. -/
def selectedBesideFound : ListParams where
  pageIndex := 1
  pageSize := 10
  sort := some "role"
  sortAscending := false
  search := some "a"
  lookups := some "[\x7b\"name\": \"status_id\", \"id\": 1\x7d]"
  ranges := none
  selectedIds := some "[7]"

/-- The picker of users lists them by what its columns know, at each level of the tree. -/
theorem mentionsOnly_of_compile_selectedBesideFound :
    ∃ d, LookupSource.user.listSpec.compile (Settings.standard "" "") selectedBesideFound = .ok d ∧
      d.sortField = "role" ∧
      d.predicates = [.any [
        .all [.notDeleted, .test "status_id" .eq (.int 1), .any [.test "name" .contains (.text "a")]],
        .test "id" .within (.list [.int 7])]] ∧
      d.MentionsOnly User.pickerColumns ∧
      LookupSource.user.listSpec.Allows selectedBesideFound d ∧
      ∃ conditions, Node.conditions User.pickerColumns d.predicates = .ok conditions := by
  have hequality : decodeEqualityFilters selectedBesideFound.lookups = .ok [⟨"status_id", some 1⟩] := by
    decide +kernel
  have hselected : decodeSelectedIds selectedBesideFound.selectedIds = .ok [7] := by
    decide +kernel
  have hchain : LookupSource.user.listSpec.chain selectedBesideFound = .ok
      [.notDeleted, .test "status_id" .eq (.int 1), .any [.test "name" .contains (.text "a")]] :=
    chain_eq_ok_iff.mpr ⟨_, [], [], hequality, rfl, by decide, by decide, .nil, rfl⟩
  have hcompile : LookupSource.user.listSpec.compile (Settings.standard "" "") selectedBesideFound = .ok _ :=
    (compile_eq_ok_iff LookupSource.user.scope_ne_fixed).mpr ⟨"role", _, rfl,
      (predicates_eq_ok_iff LookupSource.user.scope_eq).mpr ⟨_, _, hchain, hselected, rfl⟩, rfl⟩
  obtain ⟨hmentions, hallows, hconditions, -⟩ := mentionsOnly_of_compile .userPicker hcompile
  exact ⟨_, hcompile, rfl, rfl, hmentions, hallows, hconditions⟩

end ListSpec

end Backoffice
