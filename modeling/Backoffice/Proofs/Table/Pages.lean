import Mathlib
import Backoffice.Proofs.Query.Params
import Backoffice.Proofs.Table.AccessPath
import Backoffice.Proofs.Table.Listing

/-!
# Pages

The pages of a list together.  A directive that can be carried out for one page can be carried out for
every page that fits 64 bits, since only the offset changes; and stretches of the same length, one after
the other, make up the list from its beginning on.
-/

namespace Backoffice

/-- Consecutive stretches of a list make up the list from its beginning on. -/
theorem flatMap_stretches {α : Type} (xs : List α) (size count : ℕ) :
    ((List.range count).flatMap fun k => (xs.drop (k * size)).take size) = xs.take (count * size) := by
  induction count with
  | zero => simp
  | succ count ih =>
    rw [List.range_succ, List.flatMap_append, ih, Nat.succ_mul, List.take_add]
    simp

namespace Directive

variable {ρ : Type}

/-- The list consists of the rows that the directive keeps, in the order of its sort keys. -/
def Arranges (d : Directive) (columns : ColumnMap ρ) (rows ordered : List ρ) : Prop :=
  ordered.Perm (rows.filter (d.keeps columns)) ∧
    ∃ keys, d.sortKeys columns = .ok keys ∧ Ordered keys ordered

/-- Behind a listing is a list of all the rows that the directive keeps: the listing shows a page of it,
and so does every other listing that differs in the page only. -/
theorem exists_found {d : Directive} {columns : ColumnMap ρ} {rows : List ρ} {l : Listing ρ}
    (h : d.list columns rows = .ok l) : ∃ found, d.Arranges columns rows found ∧
      l = ⟨page d.limit d.offset found, found.length⟩ ∧
      ∀ limit offset, fitsWord limit = true → fitsWord offset = true →
        ({ d with limit, offset } : Directive).list columns rows =
          .ok ⟨page limit offset found, found.length⟩ := by
  obtain ⟨conditions, keys, hx, rfl⟩ := list_eq_ok_iff.mp h
  have hperm := sorted_perm keys (rows.filter (d.keeps columns))
  refine ⟨sorted keys (rows.filter (d.keeps columns)), ⟨hperm, keys, hx.keys_eq, ordered_sorted keys _⟩,
    ?_, fun limit offset hlimit hoffset => ?_⟩
  · rw [hperm.length_eq]
  · refine list_eq_ok_iff.mpr ⟨conditions, keys,
      ⟨hx.conditions_eq, hx.no_defect, hx.keys_eq, hlimit, hoffset⟩, ?_⟩
    rw [hperm.length_eq]
    rfl

end Directive

namespace AccessPath

variable {ρ : Type} {path : AccessPath} {number : ρ → ℤ} {columns : ColumnMap ρ} {d : Directive}
  {rows : List ρ} {l : Listing ρ}

/-- Behind a listing of a table is a list of all its rows that the directive keeps, of which every other
page shows its part, as all pages are reached alike. -/
theorem exists_found (h : path.list number columns d rows = .ok l) :
    ∃ found, d.Arranges columns rows found ∧ l = ⟨Directive.page d.limit d.offset found, found.length⟩ ∧
      ∀ limit offset, fitsWord limit = true → fitsWord offset = true →
        path.list number columns { d with limit, offset } rows =
          .ok ⟨Directive.page limit offset found, found.length⟩ := by
  obtain ⟨found, ⟨hperm, hkeys⟩, hl, hpages⟩ := Directive.exists_found h
  refine ⟨found, ⟨hperm.trans ((path.visit_perm _ _ _ _).filter _), hkeys⟩, hl,
    fun limit offset hlimit hoffset => ?_⟩
  unfold list
  rw [path.visit_page limit offset]
  exact hpages limit offset hlimit hoffset

/-- A directive that is carried out for one page is carried out for every other page of the same list. -/
theorem exists_pages (h : path.list number columns d rows = .ok l) (hlimit : 0 ≤ d.limit) :
    ∃ ordered, d.Arranges columns rows ordered ∧
      ∀ offset, fitsWord offset = true → path.list number columns { d with offset } rows =
        .ok ⟨(ordered.drop offset.toNat).take d.limit.toNat, ordered.length⟩ := by
  obtain ⟨conditions, keys, hx, -⟩ := Directive.list_eq_ok_iff.mp h
  obtain ⟨ordered, harranged, -, hpages⟩ := exists_found h
  refine ⟨ordered, harranged, fun offset hoffset => ?_⟩
  rw [← Directive.page_of_nonneg hlimit]
  exact hpages d.limit offset hx.limit_fits hoffset

end AccessPath

/-- The rows that a list shows on a page, none if there is no answer. -/
def rowsOfPage {α : Type} (answer : ListParams → Except Failure (Listing α)) (p : ListParams)
    (i : Int) : List α :=
  match answer { p with pageIndex := i } with
  | .ok listing => listing.rows
  | .error _ => []

/-- An answered page shows the rows of its answer. -/
theorem rowsOfPage_eq {α : Type} {answer : ListParams → Except Failure (Listing α)} {p : ListParams}
    {i : Int} {l : Listing α} (h : answer { p with pageIndex := i } = .ok l) :
    rowsOfPage answer p i = l.rows := by
  unfold rowsOfPage
  rw [h]

/-- The rows on the first pages of a list, one page after the other. -/
def rowsOfPages {α : Type} (answer : ListParams → Except Failure (Listing α)) (p : ListParams)
    (count : ℕ) : List α :=
  (List.range count).flatMap fun k : ℕ => rowsOfPage answer p (k + 1)

/-- The number of pages that the rows fill, the last one perhaps not quite. -/
def pageCount (rows size : ℕ) : ℕ :=
  (rows + size - 1) / size

/-- The pages fit the rows. -/
theorem le_pageCount_mul {rows size : ℕ} (h : 0 < size) : rows ≤ pageCount rows size * size := by
  have hdiv := Nat.div_add_mod (rows + size - 1) size
  have hmod := Nat.mod_lt (rows + size - 1) h
  unfold pageCount
  rw [Nat.mul_comm] at hdiv
  omega

/-- The rows are what all accepted pages of a list show together. -/
structure CoveredByPages {α : Type} (settings : Settings) (p : ListParams)
    (answer : ListParams → Except Failure (Listing α)) (rows : List α) : Prop where
  /-- Every accepted page is answered, always with the same total. -/
  total : ∀ i, p.Accepts settings i → ∃ shown, answer { p with pageIndex := i } = .ok ⟨shown, rows.length⟩
  /-- Accepted pages from the first on show the rows from the first on. -/
  first : ∀ count : ℕ, (∀ k < count, p.Accepts settings (k + 1)) →
    rowsOfPages answer p count = rows.take (count * p.pageSize.toNat)
  /-- If the last page is accepted, then all pages together show all rows. -/
  all : (∀ k < pageCount rows.length p.pageSize.toNat, p.Accepts settings (k + 1)) →
    rowsOfPages answer p (pageCount rows.length p.pageSize.toNat) = rows
  /-- Later pages are empty. -/
  later : ∀ i, p.Accepts settings i → (pageCount rows.length p.pageSize.toNat : Int) < i →
    rowsOfPage answer p i = []

/-- Rows are covered by pages if each accepted page shows its stretch of them. -/
theorem coveredByPages_of_stretches {α : Type} {settings : Settings} {p : ListParams}
    {answer : ListParams → Except Failure (Listing α)} {rows : List α} (hsize : 1 ≤ p.pageSize)
    (h : ∀ i, p.Accepts settings i → answer { p with pageIndex := i } =
      .ok ⟨(rows.drop ((i - 1) * p.pageSize).toNat).take p.pageSize.toNat, rows.length⟩) :
    CoveredByPages settings p answer rows := by
  have hpage : ∀ i, p.Accepts settings i → rowsOfPage answer p i =
      (rows.drop ((i - 1) * p.pageSize).toNat).take p.pageSize.toNat :=
    fun i hi => rowsOfPage_eq (h i hi)
  have hpos : 0 < p.pageSize.toNat := by omega
  have hcast : (p.pageSize.toNat : Int) = p.pageSize := Int.toNat_of_nonneg (by omega)
  have hstart : ∀ k : ℕ, (((k : Int) + 1 - 1) * p.pageSize).toNat = k * p.pageSize.toNat := by
    intro k
    rw [add_sub_cancel_right, ← hcast, ← Int.natCast_mul, Int.toNat_natCast, Int.toNat_natCast]
  have hfirst : ∀ count : ℕ, (∀ k < count, p.Accepts settings (k + 1)) →
      rowsOfPages answer p count = rows.take (count * p.pageSize.toNat) := by
    intro count hcount
    rw [← flatMap_stretches]
    unfold rowsOfPages
    refine List.flatMap_congr fun k hk => ?_
    rw [hpage _ (hcount k (List.mem_range.mp hk)), hstart]
  refine ⟨fun i hi => ⟨_, h i hi⟩, hfirst, fun hall => ?_, fun i hi hlater => ?_⟩
  · rw [hfirst _ hall]
    exact List.take_of_length_le (le_pageCount_mul hpos)
  · rw [hpage i hi]
    have hlength : rows.length ≤ ((i - 1) * p.pageSize).toNat := by
      have hle : (pageCount rows.length p.pageSize.toNat : Int) ≤ i - 1 := by omega
      have hrows : (rows.length : Int) ≤ (i - 1) * p.pageSize := calc
        (rows.length : Int) ≤ (pageCount rows.length p.pageSize.toNat * p.pageSize.toNat : ℕ) :=
          Int.ofNat_le.mpr (le_pageCount_mul hpos)
        _ = pageCount rows.length p.pageSize.toNat * p.pageSize := by rw [Int.natCast_mul, hcast]
        _ ≤ (i - 1) * p.pageSize := mul_le_mul_of_nonneg_right hle (by omega)
      omega
    rw [List.drop_of_length_le hlength, List.take_nil]

end Backoffice
