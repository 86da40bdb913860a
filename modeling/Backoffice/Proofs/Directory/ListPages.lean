import Mathlib
import Backoffice.Proofs.Table.Pages
import Backoffice.Proofs.Directory.Serving
import Backoffice.Proofs.Directory.UserSelection

/-!
# The pages of users and pickers

Whoever walks through the pages of a list sees every row once, in one order, as long as the index of the
last page is accepted.  Where the sort does not tell rows apart, this is the order in which the rows are
reached, which is the same for all pages of a list (`AccessPath.visit_page`).  A page index is accepted only
if a page of the largest size would not lie beyond the largest offset; with a large cap and small pages this
ends a list before its last row.
-/

namespace Backoffice

/-- A request for a list whose rows are shown in some form is answered by pages that show exactly the
matching rows, in some order that agrees with the sort. -/
def IsPaged {ρ α : Type} (spec : ListSpec) (columns : ColumnMap ρ) (rows : List ρ) (shown : ρ → α)
    (run : Directive → Except Failure (Listing α)) (settings : Settings) (p : ListParams) : Prop :=
  ∀ d listing, spec.compile settings p = .ok d → run d = .ok listing →
    ∃ ordered, d.Arranges columns rows ordered ∧
      CoveredByPages settings p (fun q => spec.compile settings q >>= run) (ordered.map shown)

section Paged

variable {ρ α : Type} {spec : ListSpec} {path : AccessPath} {number : ρ → ℤ} {columns : ColumnMap ρ}
  {rows : List ρ} {shown : ρ → α} {run : Directive → Except Failure (Listing α)} {settings : Settings}
  {p : ListParams}

/-- The offset of an accepted page fits 64 bits. -/
theorem fitsWord_offset {i : Int} (hi : ListParams.IsPageIndex settings i)
    (hsize : 1 ≤ p.pageSize ∧ p.pageSize ≤ settings.pageCap) :
    fitsWord ((i - 1) * p.pageSize) = true := by
  obtain ⟨hlow, hhigh⟩ := ListParams.offset_mem hi hsize
  unfold ListParams.maxOffset at hhigh
  rw [fitsWord_iff]
  omega

/-- A list is paged if it is carried out on a table, along any path, and each row is shown by itself. -/
theorem isPaged_of_run (hscope : spec.scope ≠ .fixed)
    (hrun : ∀ d, run d =
      (fun l : Listing ρ => ⟨l.rows.map shown, l.total⟩) <$> path.list number columns d rows)
    (hvalid : p.Valid settings) (hsize : 1 ≤ p.pageSize ∧ p.pageSize ≤ settings.pageCap) :
    IsPaged spec columns rows shown run settings p := by
  intro d listing hd hlisting
  rw [hrun, map_eq_ok_iff] at hlisting
  obtain ⟨l, hl, -⟩ := hlisting
  have hlimit : d.limit = p.pageSize := (ListSpec.page_of_compile hscope hd).1
  obtain ⟨ordered, harranged, hpages⟩ := AccessPath.exists_pages hl (by omega)
  refine ⟨ordered, harranged, ?_⟩
  refine coveredByPages_of_stretches hsize.1 fun i hi => ?_
  have hindex := (hvalid.accepts_iff hsize).mp hi
  have hpage := hpages ((i - 1) * p.pageSize) (fitsWord_offset hindex hsize)
  simp only [ListSpec.compile_page hscope hd i, bind, Except.bind]
  rw [hrun, hpage]
  simp only [Functor.map, Except.map, hlimit, List.map_take, List.map_drop, List.length_map]

end Paged

namespace Tables

variable {t : Tables} {settings : Settings} {p : ListParams}

/-- The pages of a list of users or of a picker show the matching rows, on whatever path they are reached: each
accepted page has the same total, the first pages show the first rows, all pages show every row exactly once
and in the order of the sort if the last of them is accepted, and later pages are empty.  A page is accepted
exactly if one of the largest size would not lie beyond the largest offset. -/
theorem isPaged_lists (path : AccessPath) (hread : p.IsRead settings)
    (hsize : 1 ≤ p.pageSize ∧ p.pageSize ≤ settings.pageCap) :
    (∀ defaultSort, IsPaged (User.listSpecSortedBy defaultSort) User.columns t.users id
      (t.listUsers · path) settings p) ∧
    IsPaged LookupSource.userStatus.listSpec UserStatus.columns t.statuses UserStatus.entry
      (t.lookup .userStatus · path) settings p ∧
    IsPaged LookupSource.user.listSpec User.pickerColumns t.users User.entry (t.lookup .user · path)
      settings p ∧
    IsPaged LookupSource.menuModule.listSpec MenuModule.columns t.modules MenuModule.entry
      (t.lookup .menuModule · path) settings p ∧
    ∀ i, p.Accepts settings i ↔ 1 ≤ i ∧ (i - 1) * settings.pageCap ≤ ListParams.maxOffset := by
  have hvalid := hread.valid
  have hscope := LookupSource.scope_ne_fixed
  refine ⟨fun defaultSort => ?_, ?_, ?_, ?_, fun i => hvalid.accepts_iff hsize⟩
  · have hlist : ∀ d, t.listUsers d path = (fun l : Listing User => ⟨l.rows.map id, l.total⟩) <$>
        path.list User.id User.columns d t.users := by
      intro d
      unfold listUsers
      cases path.list User.id User.columns d t.users with
      | error e => rfl
      | ok l => simp [Functor.map, Except.map]
    exact isPaged_of_run Scope.noConfusion hlist hvalid hsize
  · exact isPaged_of_run (hscope _) (fun d => rfl) hvalid hsize
  · exact isPaged_of_run (hscope _) (fun d => rfl) hvalid hsize
  · exact isPaged_of_run (hscope _) (fun d => rfl) hvalid hsize

/-! ### One user on a page -/

/-- A list of users by the field, one on a page, without filters. -/
def oneByOne (field : String) (ascending : Bool) (i : Int) : ListParams :=
  ⟨i, 1, some field, ascending, none, none, none, none⟩

/-- The directive of such a list. -/
def oneByOneFrom (field : String) (ascending : Bool) (offset : Int) : Directive :=
  ⟨[.notDeleted], field, ascending, 1, offset, []⟩

/-- Each page of such a list has its directive. -/
theorem compile_oneByOne {field : String} (hsort : User.listSpec.sortField (some field) = .ok field)
    (settings : Settings) (ascending : Bool) (i : Int) :
    User.listSpec.compile settings (oneByOne field ascending i) =
      .ok (oneByOneFrom field ascending ((i - 1) * 1)) := by
  have hchain : User.listSpec.chain (oneByOne field ascending i) = .ok [.notDeleted] := by
    unfold ListSpec.chain
    simp only [bind_eq_ok_iff, ListSpec.refuse_eq_ok_iff]
    exact ⟨[], rfl, [], rfl, (), rfl, (), rfl, rfl⟩
  exact (ListSpec.compile_eq_ok_iff Scope.noConfusion).mpr ⟨field, _, hsort, hchain, rfl⟩

/-- Each page of such a list shows a single user, if none of the users is deleted. -/
theorem listUsers_oneByOne (path : AccessPath) {users order : List User} {field : String} {ascending : Bool}
    {c : Column User} {offset : Int} (hcolumn : User.columns.lookup field = some c)
    (hlive : ∀ u ∈ order, u.deleted ≠ some true)
    (hvisit : path.visit User.id User.columns (oneByOneFrom field ascending 0) users = order)
    (hoffset : fitsWord offset = true) :
    listUsers ⟨[], users, [], []⟩ (oneByOneFrom field ascending offset) path =
      .ok ⟨((Directive.sorted [⟨c, ascending⟩] order).drop offset.toNat).take 1, order.length⟩ := by
  have hkeys : (oneByOneFrom field ascending offset).sortKeys User.columns = .ok [⟨c, ascending⟩] := by
    unfold Directive.sortKeys
    simp only [bind_eq_ok_iff, pure_eq_ok_iff, Node.column_eq_ok_iff]
    exact ⟨c, hcolumn, [], rfl, rfl⟩
  refine Directive.list_eq_ok_iff.mpr ⟨_, _, ⟨rfl, rfl, hkeys, rfl, hoffset⟩, ?_⟩
  have hkept : order.filter ((oneByOneFrom field ascending offset).keeps User.columns) = order := by
    refine List.filter_eq_self.mpr fun u hu => ?_
    unfold Directive.keeps oneByOneFrom
    rw [List.all_cons, List.all_nil, Bool.and_true]
    exact (User.holds_notDeleted u).mpr (hlive u hu)
  have hreached : path.visit User.id User.columns (oneByOneFrom field ascending offset) users = order :=
    (path.visit_page 1 offset).trans hvisit
  have hpage : Directive.page 1 offset (Directive.sorted [⟨c, ascending⟩] order) =
      ((Directive.sorted [⟨c, ascending⟩] order).drop offset.toNat).take 1 :=
    Directive.page_of_nonneg (by decide) _
  rw [hreached, hkept, ← hpage]
  rfl

/-- The user on a page of such a list. -/
theorem rowsOfPage_oneByOne (settings : Settings) (path : AccessPath) {users order : List User}
    {field : String} {ascending : Bool} {c : Column User} {i : Int}
    (hsort : User.listSpec.sortField (some field) = .ok field) (hcolumn : User.columns.lookup field = some c)
    (hlive : ∀ u ∈ order, u.deleted ≠ some true)
    (hvisit : path.visit User.id User.columns (oneByOneFrom field ascending 0) users = order)
    (hi : fitsWord ((i - 1) * 1) = true) :
    rowsOfPage (fun q => User.listSpec.compile settings q >>= (listUsers ⟨[], users, [], []⟩ · path))
      (oneByOne field ascending 1) i =
        ((Directive.sorted [⟨c, ascending⟩] order).drop ((i - 1) * 1).toNat).take 1 :=
  rowsOfPage_eq (l := ⟨_, order.length⟩) (bind_eq_ok_iff.mpr ⟨_,
    compile_oneByOne hsort settings ascending i, listUsers_oneByOne path hcolumn hlive hvisit hi⟩)

/-- Three users of whom the first and the last have the same status. -/
def threeUsers : List User :=
  [{ User.named 1 "Anna" "a@b.c" none with statusId := some 2 },
    { User.named 2 "Bob" "b@b.c" none with statusId := some 1 },
    { User.named 3 "Carl" "c@b.c" none with statusId := some 2 }]

/-- The pages of three users, by status downward: the request is accepted, and its page size is in bounds.
Users of one status come in the order of their numbers, or along the index on the status backward. -/
theorem isPaged_lists_tiedUsers :
    let settings := Settings.standard "" ""
    let p := oneByOne "status_id" false 1
    let t : Tables := ⟨[], threeUsers, [], []⟩
    let backward := AccessPath.alongIndex 8 false
    let pages := fun path i =>
      (rowsOfPage (fun q => User.listSpec.compile settings q >>= (t.listUsers · path)) p i).map (·.id)
    p.IsRead settings ∧ (1 ≤ p.pageSize ∧ p.pageSize ≤ settings.pageCap) ∧
      IsPaged User.listSpec User.columns t.users id (t.listUsers · backward) settings p ∧
      [1, 2, 3].map (pages backward) = [[3], [1], [2]] ∧
      [1, 2, 3].map (pages .byNumber) = [[1], [3], [2]] := by
  intro settings p t backward pages
  have hread : p.IsRead settings :=
    ⟨[("pageSize", .int 1), ("sort", .str "status_id"), ("sortAscending", .bool false)], Or.inl rfl⟩
  have hpages : ∀ path order, (∀ u ∈ order, u.deleted ≠ some true) →
      path.visit User.id User.columns (oneByOneFrom "status_id" false 0) t.users = order →
      [1, 2, 3].map (pages path) = [0, 1, 2].map fun n =>
        (((Directive.sorted [⟨.int (·.statusId), false⟩] order).drop n).take 1).map (·.id) := by
    intro path order hlive hvisit
    have hpage : ∀ i : ℤ, fitsWord ((i - 1) * 1) = true → pages path i =
        (((Directive.sorted [⟨.int (·.statusId), false⟩] order).drop ((i - 1) * 1).toNat).take 1).map
          (·.id) := by
      intro i hi
      simp only [pages]
      rw [rowsOfPage_oneByOne settings path rfl rfl hlive hvisit hi]
    rw [List.map_cons, List.map_cons, List.map_singleton, hpage 1 rfl, hpage 2 rfl, hpage 3 rfl]
    rfl
  refine ⟨hread, by decide, (isPaged_lists backward hread (by decide)).1 "name", ?_, ?_⟩
  · rw [hpages backward (threeUsers.drop 2 ++ threeUsers.take 2) (by decide)
      (backward.visit_eq (by decide) (by decide) (by decide))]
    decide
  · rw [hpages .byNumber threeUsers (by decide)
      (AccessPath.byNumber.visit_eq (by decide) (.refl _) (by decide))]
    decide

/-- With a large cap the last page of a list can be out of reach.  Three users fill three pages of one
row, but the third page index is refused and no accepted page shows the third user. -/
theorem lastPage_refused :
    let settings : Settings := { Settings.standard "" "" with maxPageSize := 2 ^ 62 }
    let t : Tables := ⟨[], threeUsers, [], []⟩
    let p := oneByOne "id" true 1
    p.IsRead settings ∧ 1 ≤ settings.pageCap ∧
      (∃ d listing, User.listSpec.compile settings p = .ok d ∧ t.listUsers d = .ok listing ∧
        pageCount listing.total 1 = 3) ∧
      ¬ p.Accepts settings 3 ∧
      ∀ i, p.Accepts settings i → 3 ∉
        (rowsOfPage (fun q => User.listSpec.compile settings q >>= t.listUsers) p i).map (·.id) := by
  intro settings t p
  have hindex : ∀ i, p.Accepts settings i → i = 1 ∨ i = 2 := by
    intro i hi
    obtain ⟨hlow, hhigh⟩ := hi.valid.pageIndex
    have hcap : settings.pageCap = 2 ^ 62 := by decide
    rw [hcap] at hhigh
    unfold ListParams.maxOffset at hhigh
    change 1 ≤ i at hlow
    change (i - 1) * 2 ^ 62 ≤ 2 ^ 63 - 1 at hhigh
    omega
  have hread : p.IsRead settings := ⟨[("pageSize", .int 1), ("sort", .str "id")], Or.inl rfl⟩
  have hvisit : AccessPath.byNumber.visit User.id User.columns (oneByOneFrom "id" true 0) t.users =
      threeUsers := AccessPath.byNumber.visit_eq (by decide) (.refl _) (by decide)
  refine ⟨hread, by decide, ⟨_, _, compile_oneByOne rfl settings true 1,
    listUsers_oneByOne .byNumber rfl (by decide) hvisit (by decide), by decide⟩, ?_, ?_⟩
  · intro h
    rcases hindex 3 h with h | h <;> cases h
  · intro i hi
    have hfits : fitsWord ((i - 1) * 1) = true := by
      rcases hindex i hi with rfl | rfl <;> decide
    rw [rowsOfPage_oneByOne settings .byNumber rfl rfl (by decide) hvisit hfits]
    rcases hindex i hi with rfl | rfl <;> decide

end Tables

end Backoffice
