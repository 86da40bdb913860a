import Mathlib
import Backoffice.Proofs.Table.Selection
import Backoffice.Table.AccessPath

/-!
# Rows along an access path

On whatever path a table is gone through, each of its rows is reached once (`AccessPath.visit_perm`), and
all pages of a list are reached alike (`AccessPath.visit_page`).  Rows that are left out do not change the
order of the others (`AccessPath.visit_filter`), and neither does what the columns of the list do not show
(`AccessPath.visit_map`).  Predicates that a path cannot tell apart are those that are written alike, and
whose alternatives are true of the same rows (`AccessPath.visit_congr`).
-/

namespace Backoffice

/-- The condition of a tree selects the rows that satisfy the tree. -/
theorem Node.selects_of_condition {ρ : Type} {columns : ColumnMap ρ} {n : Node} {o : Option (Condition ρ)}
    (h : condition columns n = .ok o) (row : ρ) : n.selects columns row = n.holds columns row := by
  rw [Bool.eq_iff_iff, ← (renders_of_condition h).selects_iff row]
  unfold selects
  rw [h]
  cases o <;> simp

namespace AccessPath

variable {ρ : Type} (path : AccessPath) {number : ρ → ℤ} {columns : ColumnMap ρ} {d : Directive}
  {rows : List ρ}

/-- Every row of the table is reached once. -/
theorem visit_perm (number : ρ → ℤ) (columns : ColumnMap ρ) (d : Directive) (rows : List ρ) :
    (path.visit number columns d rows).Perm rows :=
  List.mergeSort_perm rows _

/-- Rows are reached in the order of the path. -/
theorem pairwise_visit (number : ρ → ℤ) (columns : ColumnMap ρ) (d : Directive) (rows : List ρ) :
    (path.visit number columns d rows).Pairwise fun a b =>
      path.le d.written (view number columns d a) (view number columns d b) = true := by
  refine List.pairwise_mergeSort ?_ ?_ rows
  · exact fun a b c => path.le_trans _ _ _ _
  · intro a b
    rw [Bool.or_eq_true]
    exact path.le_total _ _ _

/-- All pages of a list are reached alike. -/
theorem visit_page (limit offset : ℤ) :
    path.visit number columns { d with limit, offset } rows = path.visit number columns d rows := rfl

/-- Rows with different numbers are reached in one order only, which agrees with the path. -/
theorem visit_eq {order : List ρ} (hnumbers : (rows.map number).Nodup) (hperm : order.Perm rows)
    (horder : order.Pairwise fun a b =>
      path.le d.written (view number columns d a) (view number columns d b) = true) :
    path.visit number columns d rows = order := by
  have hvisit : (path.visit number columns d rows).Perm rows := path.visit_perm number columns d rows
  refine List.Perm.eq_of_pairwise ?_ (path.pairwise_visit _ _ _ _) horder (hvisit.trans hperm.symm)
  -- rows that are reached before each other have the same number, and so are the same
  intro a b ha hb hab hba
  exact List.inj_on_of_nodup_map hnumbers (hvisit.mem_iff.mp ha) (hperm.mem_iff.mp hb)
    (path.number_eq _ _ _ hab hba)

/-- Rows with different numbers are reached in the same order, whichever of them are left out. -/
theorem visit_filter (h : (rows.map number).Nodup) (p : ρ → Bool) :
    path.visit number columns d (rows.filter p) = (path.visit number columns d rows).filter p :=
  path.visit_eq (h.sublist (List.filter_sublist.map number)) ((path.visit_perm _ _ _ _).filter p)
    ((path.pairwise_visit _ _ _ _).filter p)

/-- Rows are reached alike whatever is done to them that the path does not go by. -/
theorem visit_map {f : ρ → ρ} (h : ∀ row, view number columns d (f row) = view number columns d row)
    (rows : List ρ) :
    path.visit number columns d (rows.map f) = (path.visit number columns d rows).map f := by
  unfold visit
  exact (List.map_mergeSort fun a _ b _ => by rw [h, h]).symm

/-- The same order is taken for predicates that are written alike and have alternatives that are true of the
same rows. -/
theorem visit_congr {e : Directive} (hwritten : d.written = e.written)
    (halternatives : ∀ row, d.alternatives.map (·.selects columns row) =
      e.alternatives.map (·.selects columns row)) (rows : List ρ) :
    path.visit number columns d rows = path.visit number columns e rows := by
  unfold visit view
  simp only [hwritten, halternatives]

/-! ### Paths along an index -/

/-- What an index on a column goes by: the cell of the column, then the number of the row. -/
def indexKeys (column : ℕ) (ascending : Bool) : List (Directive.SortKey RowView) :=
  [⟨⟨.none, fun v => v.cells.getD column .null⟩, ascending⟩, ⟨⟨.none, fun v => .int v.number⟩, ascending⟩]

/-- The path along an index on a column, upward or downward. -/
def alongIndex (column : ℕ) (ascending : Bool) : AccessPath where
  le _ := Directive.SortKey.leBy (indexKeys column ascending)
  le_total _ a b := Directive.SortKey.leBy_total _ a b
  le_trans _ _ _ _ hab hbc := Directive.SortKey.leBy_trans _ hab hbc
  number_eq _ _ _ hab hba :=
    Cell.int.inj (Directive.SortKey.cell_eq_of_leBy_of_leBy hab hba _
      (List.mem_cons_of_mem _ (List.mem_singleton_self _)))

end AccessPath

end Backoffice
