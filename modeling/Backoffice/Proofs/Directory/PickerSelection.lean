import Mathlib
import Backoffice.Proofs.Directory.WordSizes
import Backoffice.Proofs.Table.Pages

/-!
# Selected rows of pickers

Rows that are selected by their number stay visible in a picker whatever the filters.  What is found with
selected rows is what is found without them, and the selected rows, deleted or not
(`Tables.lookup_selected`).
-/

namespace Backoffice

/-! ### Trees with selected rows -/

namespace Node

variable {ρ : Type} {columns : ColumnMap ρ}

/-- A membership test of a column of integers asks for one of the integers. -/
theorem holds_within_ints {key : String} {read : ρ → Int} {ids : List Int} {row : ρ}
    (hkey : columns.lookup key = some (.int fun r => some (read r))) :
    (Node.test key .within (.list (ids.map .int))).holds columns row = true ↔ read row ∈ ids := by
  rw [holds_test hkey]
  simp only [Column.meets, members_ints, Column.int, Cell.ofOption, List.map_map, Bool.and_eq_true,
    bne_iff_ne, List.contains_iff_mem, List.mem_map]
  constructor
  · rintro ⟨-, n, hn, heq⟩
    cases heq
    exact hn
  · intro hmem
    exact ⟨Cell.noConfusion, read row, hmem, rfl⟩

/-- Beside trees that ask something, the selected rows are a true alternative. -/
theorem holds_orSelected {ns : List Node} {key : String} {read : ρ → Int} {ids : List Int} {row : ρ}
    (hkey : columns.lookup key = some (.int fun r => some (read r))) (hns : areVacant ns = false) :
    (Node.any [.all ns, .test key .within (.list (ids.map .int))]).holds columns row = true ↔
      (∀ n ∈ ns, n.holds columns row = true) ∨ read row ∈ ids := by
  have hvacant : areVacant [.all ns, .test key .within (.list (ids.map .int))] = false := by
    simp [areVacant, isVacant]
  have hall : (Node.all ns).holds columns row = true ↔ ∀ n ∈ ns, n.holds columns row = true := by
    rw [holds]
    exact holdAll_eq_true_iff
  have hasks : (Node.all ns).isVacant = false := by
    rw [isVacant]
    exact hns
  have hasks' : (Node.test key .within (.list (ids.map .int))).isVacant = false := rfl
  rw [holds, hvacant, Bool.false_or, holdSome_eq_true_iff, ← holds_within_ints hkey, ← hall]
  simp only [List.mem_cons, List.not_mem_nil, or_false, exists_eq_or_imp, exists_eq_left, hasks, hasks',
    true_and]

end Node

/-! ### Requests with selected rows -/

/-- The request without its selected rows. -/
def ListParams.withoutSelected (p : ListParams) : ListParams :=
  { p with selectedIds := none }

namespace ListSpec

variable {ρ : Type} {spec : ListSpec} {columns : ColumnMap ρ} {settings : Settings} {p : ListParams}
  {d : Directive} {l : Listing ρ} {rows : List ρ} {read : ρ → Int} {deleted : ρ → Option Bool}

/-- The predicates of a list that leaves out deleted rows ask for rows that are not deleted. -/
theorem notDeleted_mem_of_chain {nodes : List Node} (hbase : spec.base = [.notDeleted])
    (h : spec.chain p = .ok nodes) : Node.notDeleted ∈ nodes := by
  obtain ⟨equality, ranges, days, hchained⟩ := chain_eq_ok_iff.mp h
  rw [hchained.nodes_eq, hbase]
  simp

/-- A directive that asks for rows that are not deleted keeps no others. -/
theorem not_deleted_of_keeps (hmem : Node.notDeleted ∈ d.predicates)
    (hdeleted : columns.lookup "deleted" = some (.bool deleted)) {row : ρ}
    (hkeeps : d.keeps columns row = true) : deleted row ≠ some true := by
  unfold Directive.keeps at hkeeps
  have hrow := List.all_eq_true.mp hkeeps _ hmem
  unfold Node.notDeleted at hrow
  rw [Node.holds_test hdeleted] at hrow
  exact Column.meets_bool_isNot_true.mp hrow

/-- A request of a picker that is compiled keeps, beside the rows that it keeps without its selected
rows, exactly the selected ones; and without them it keeps no deleted row. -/
theorem keeps_selected {key : String} (hscope : spec.scope = .picker key)
    (hbase : spec.base = [.notDeleted])
    (hkey : columns.lookup key = some (.int fun r => some (read r)))
    (hdeleted : columns.lookup "deleted" = some (.bool deleted))
    (hd : spec.compile settings p = .ok d) :
    ∃ ids d₀, decodeSelectedIds p.selectedIds = .ok ids ∧
      spec.compile settings p.withoutSelected = .ok d₀ ∧
      (∀ row, d.keeps columns row = true ↔ d₀.keeps columns row = true ∨ read row ∈ ids) ∧
      ∀ row, d₀.keeps columns row = true → deleted row ≠ some true := by
  have hfree : spec.scope ≠ .fixed := by
    rw [hscope]
    exact Scope.noConfusion
  obtain ⟨field, nodes, hfield, hnodes, rfl⟩ := (compile_eq_ok_iff hfree).mp hd
  obtain ⟨chained, ids, hchain, hids, rfl⟩ := (predicates_eq_ok_iff hscope).mp hnodes
  have hchain₀ : spec.chain p.withoutSelected = .ok chained := hchain
  have hnodes₀ : spec.predicates p.withoutSelected = .ok chained :=
    (predicates_eq_ok_iff hscope).mpr ⟨chained, [], hchain₀, rfl, rfl⟩
  have hmem := notDeleted_mem_of_chain hbase hchain
  have hvacant := Node.areVacant_of_mem hmem rfl
  refine ⟨ids, _, hids, (compile_eq_ok_iff hfree).mpr ⟨field, chained, hfield, hnodes₀, rfl⟩, ?_, ?_⟩
  · intro row
    unfold Directive.keeps
    by_cases hnil : ids = []
    · rw [if_pos hnil, hnil]
      simp
    · rw [if_neg hnil, List.all_eq_true, List.all_eq_true, List.forall_mem_singleton]
      exact Node.holds_orSelected hkey hvacant
  · exact fun row hkeeps => not_deleted_of_keeps hmem hdeleted hkeeps

/-- If the numbers of a request fit, they fit without the selected rows. -/
theorem NumbersFit.withoutSelected (h : spec.NumbersFit p) :
    spec.NumbersFit p.withoutSelected := by
  refine ⟨⟨h.1.1, ?_⟩, h.2⟩
  rintro key ids - hids
  cases hids
  intro n hn
  cases hn

/-- A request that is carried out is carried out without its selected rows, on any rows. -/
theorem exists_list_withoutSelected {d₀ : Directive} (hserved : spec.IsServed columns)
    (hscope : spec.scope ≠ .fixed) (hd : spec.compile settings p = .ok d)
    (hl : d.list columns rows = .ok l) (hd₀ : spec.compile settings p.withoutSelected = .ok d₀)
    (others : List ρ) : ∃ l₀, d₀.list columns others = .ok l₀ := by
  have hfits : spec.NumbersFit p := by
    by_contra hunfit
    rw [(list_resultsIf hserved hscope hd rows).2 hunfit] at hl
    cases hl
  exact (list_resultsIf hserved hscope hd₀ others).1 hfits.withoutSelected

end ListSpec

/-! ### What pickers find -/

namespace Tables

/-- The directive finds these rows in a picker, whatever page of them is shown: each page shows its part
of them and counts them all. -/
def Finds (t : Tables) (source : LookupSource) (path : AccessPath) (d : Directive)
    (found : List PickerRow) : Prop :=
  ∀ limit offset, fitsWord limit = true → fitsWord offset = true →
    t.lookup source { d with limit, offset } path =
      .ok ⟨(Directive.page limit offset found).map PickerRow.entry, found.length⟩

/-- The rows that a directive finds in a picker are those of the table that it keeps, none of them twice
if their numbers are distinct. -/
theorem exists_finds {ρ : Type} {t : Tables} {source : LookupSource} {path : AccessPath} {number : ρ → ℤ}
    {columns : ColumnMap ρ} {rows : List ρ} {view : ρ → PickerRow}
    (hpicker : t.IsPickerOf source number columns rows view) {d : Directive} {l : Listing ρ}
    (h : path.list number columns d rows = .ok l) :
    ∃ found, t.Finds source path d found ∧
      (∀ r, r ∈ found ↔ ∃ row ∈ rows, d.keeps columns row = true ∧ view row = r) ∧
      (((t.pickerRows source).map (·.id)).Nodup → (found.map (·.id)).Nodup) := by
  obtain ⟨kept, ⟨hperm, -⟩, -, hpages⟩ := AccessPath.exists_found h
  refine ⟨kept.map view, ?_, ?_, ?_⟩
  · intro limit offset hlimit hoffset
    rw [hpicker.lookup_eq, hpages limit offset hlimit hoffset, Directive.page_map, List.map_map,
      List.length_map]
    rfl
  · intro r
    simp only [List.mem_map, hperm.mem_iff, List.mem_filter, and_assoc]
  · intro hdistinct
    have hrows : ((rows.map view).map (·.id)).Nodup := by rwa [hpicker.rows_eq]
    have hkept : ((rows.filter (d.keeps columns)).map view).Sublist (rows.map view) :=
      List.filter_sublist.map view
    exact ((hperm.map view).map _).nodup_iff.mpr (hrows.sublist (hkept.map _))

/-- What a picker shows of the rows that are found. -/
theorem lookup_eq_of_finds {t : Tables} {source : LookupSource} {path : AccessPath} {d : Directive}
    {found : List PickerRow} {listing : Listing LookupEntry} (hfinds : t.Finds source path d found)
    (h : t.lookup source d path = .ok listing) :
    listing = ⟨(Directive.page d.limit d.offset found).map PickerRow.entry, found.length⟩ := by
  obtain ⟨ρ, number, columns, rows, view, hpicker⟩ := exists_isPickerOf t source
  have hrun := h
  rw [hpicker.lookup_eq, map_eq_ok_iff] at hrun
  obtain ⟨l, hl, -⟩ := hrun
  obtain ⟨conditions, keys, hx, -⟩ := Directive.list_eq_ok_iff.mp hl
  have hpage := hfinds d.limit d.offset hx.limit_fits hx.offset_fits
  exact Except.ok.inj (h.symm.trans hpage)

variable {t : Tables} {settings : Settings} {source : LookupSource} {path : AccessPath} {p : ListParams}
  {d : Directive} {listing : Listing LookupEntry}

/-- Selected rows of a picker.  When a request is carried out, so is the same request without its selected
rows.  The rows found by the first are those found by the second, and all rows of the table with a selected
number, deleted or not.  The second finds no deleted row.  No row is found twice if the numbers of the
table are distinct, all rows found are counted, and a row without a name is shown as one. -/
theorem lookup_selected (hd : source.listSpec.compile settings p = .ok d)
    (hlisting : t.lookup source d path = .ok listing) :
    ∃ ids d₀ listing₀ found found₀, decodeSelectedIds p.selectedIds = .ok ids ∧
      source.listSpec.compile settings p.withoutSelected = .ok d₀ ∧
      t.lookup source d₀ path = .ok listing₀ ∧ t.Finds source path d found ∧
      t.Finds source path d₀ found₀ ∧
      listing = ⟨(Directive.page d.limit d.offset found).map PickerRow.entry, found.length⟩ ∧
      listing₀ = ⟨(Directive.page d₀.limit d₀.offset found₀).map PickerRow.entry, found₀.length⟩ ∧
      (∀ r, r ∈ found ↔ r ∈ found₀ ∨ r ∈ t.pickerRows source ∧ r.id ∈ ids) ∧
      (∀ r ∈ found₀, r ∈ t.pickerRows source ∧ r.deleted ≠ some true) ∧
      (((t.pickerRows source).map (·.id)).Nodup →
        (found.map (·.id)).Nodup ∧ (found₀.map (·.id)).Nodup) := by
  obtain ⟨ρ, number, columns, rows, view, hpicker⟩ := exists_isPickerOf t source
  obtain ⟨ids, d₀, hids, hd₀, hkeeps, hlive⟩ := ListSpec.keeps_selected source.scope_eq source.base_eq
    hpicker.id_column hpicker.deleted_column hd
  have hrun := hlisting
  rw [hpicker.lookup_eq, map_eq_ok_iff] at hrun
  obtain ⟨l, hl, -⟩ := hrun
  obtain ⟨l₀, hl₀⟩ :=
    ListSpec.exists_list_withoutSelected hpicker.served source.scope_ne_fixed hd hl hd₀
      (path.visit number columns d₀ rows)
  have hlisting₀ : ∃ listing₀, t.lookup source d₀ path = .ok listing₀ := by
    rw [hpicker.lookup_eq]
    unfold AccessPath.list
    rw [hl₀]
    exact ⟨_, rfl⟩
  obtain ⟨listing₀, hlisting₀⟩ := hlisting₀
  obtain ⟨found, hfinds, hfound, hnodup⟩ := exists_finds hpicker hl
  obtain ⟨found₀, hfinds₀, hfound₀, hnodup₀⟩ := exists_finds hpicker hl₀
  have htable : ∀ r : PickerRow, r ∈ t.pickerRows source ↔ ∃ row ∈ rows, view row = r := by
    intro r
    rw [← hpicker.rows_eq, List.mem_map]
  refine ⟨ids, d₀, listing₀, found, found₀, hids, hd₀, hlisting₀, hfinds, hfinds₀,
    lookup_eq_of_finds hfinds hlisting, lookup_eq_of_finds hfinds₀ hlisting₀, ?_, ?_,
    fun hdistinct => ⟨hnodup hdistinct, hnodup₀ hdistinct⟩⟩
  · intro r
    rw [hfound, hfound₀, htable]
    constructor
    · rintro ⟨row, hrow, hkeep, rfl⟩
      rcases (hkeeps row).mp hkeep with hkeep₀ | hid
      · exact Or.inl ⟨row, hrow, hkeep₀, rfl⟩
      · exact Or.inr ⟨⟨row, hrow, rfl⟩, hid⟩
    · rintro (⟨row, hrow, hkeep₀, rfl⟩ | ⟨⟨row, hrow, rfl⟩, hid⟩)
      · exact ⟨row, hrow, (hkeeps row).mpr (Or.inl hkeep₀), rfl⟩
      · exact ⟨row, hrow, (hkeeps row).mpr (Or.inr hid), rfl⟩
  · intro r hr
    obtain ⟨row, hrow, hkeep₀, rfl⟩ := (hfound₀ r).mp hr
    exact ⟨(htable _).mpr ⟨row, hrow, rfl⟩, hlive row hkeep₀⟩

/-- A request for statuses, of which the first is selected. -/
def firstSelected : ListParams :=
  ⟨1, 10, none, true, none, none, none, some "[1]"⟩

/-- A deleted status without a name, and one that is not deleted. -/
def twoStatuses : List UserStatus :=
  [⟨1, none, none, none, some true⟩, ⟨2, some "Active", none, none, none⟩]

/-- A deleted status that is selected is found, and shown without its name. -/
theorem lookup_selected_firstSelected :
    let settings := Settings.standard "" ""
    let t : Tables := ⟨twoStatuses, [], [], []⟩
    ∃ d, LookupSource.userStatus.listSpec.compile settings firstSelected = .ok d ∧
      t.lookup .userStatus d = .ok ⟨[⟨1, "No Name"⟩, ⟨2, "Active"⟩], 2⟩ ∧
      ∃ d₀ found₀, LookupSource.userStatus.listSpec.compile settings firstSelected.withoutSelected =
          .ok d₀ ∧ t.Finds .userStatus .byNumber d₀ found₀ ∧ ∀ r ∈ found₀, r.deleted ≠ some true := by
  intro settings t
  let d : Directive := ⟨[.any [.all [.notDeleted], .test "id" .within (.list [.int 1])]], "name", true,
    10, 0, []⟩
  have hids : decodeSelectedIds firstSelected.selectedIds = .ok [1] := by
    decide +kernel
  have hchain : LookupSource.userStatus.listSpec.chain firstSelected = .ok [.notDeleted] :=
    ListSpec.chain_eq_ok_iff.mpr ⟨[], [], [], rfl, rfl, by simp, by simp, .nil, rfl⟩
  have hd : LookupSource.userStatus.listSpec.compile settings firstSelected = .ok d :=
    (ListSpec.compile_eq_ok_iff Scope.noConfusion).mpr ⟨"name", d.predicates, rfl,
      (ListSpec.predicates_eq_ok_iff rfl).mpr ⟨_, [1], hchain, hids, rfl⟩, rfl⟩
  have hvisit : AccessPath.byNumber.visit UserStatus.id UserStatus.columns d twoStatuses = twoStatuses :=
    AccessPath.byNumber.visit_eq (by decide) (.refl _) (by decide)
  have hlist : d.list UserStatus.columns twoStatuses = .ok ⟨twoStatuses, 2⟩ := by
    refine Directive.list_eq_ok_iff.mpr
      ⟨_, [⟨.text (·.status), true⟩], ⟨rfl, rfl, rfl, rfl, rfl⟩, ?_⟩
    have hkept : twoStatuses.filter (d.keeps UserStatus.columns) = twoStatuses := by decide
    rw [hkept]
    rfl
  have hlisting : t.lookup .userStatus d = .ok ⟨[⟨1, "No Name"⟩, ⟨2, "Active"⟩], 2⟩ := by
    unfold lookup AccessPath.list
    simp only [t, hvisit, hlist]
    rfl
  obtain ⟨ids, d₀, listing₀, found, found₀, -, hd₀, -, -, hfinds₀, -, -, -, hlive, -⟩ :=
    lookup_selected hd hlisting
  exact ⟨d, hd, hlisting, d₀, found₀, hd₀, hfinds₀, fun r hr => (hlive r hr).2⟩

end Tables

end Backoffice
