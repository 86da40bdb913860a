import Mathlib
import Backoffice.Proofs.Table.AccessPath
import Backoffice.Proofs.Table.Listing

/-!
# What a list does not see

A list reads its rows through the columns of its table.  Whatever is done to the rows that no column
shows, the list keeps the same rows in the same order and counts as many of them
(`Directive.list_map`).
-/

namespace Backoffice

variable {ρ : Type} {columns : ColumnMap ρ} {f : ρ → ρ}

/-- The columns do not see what the function does to a row. -/
def ColumnMap.Overlooks (columns : ColumnMap ρ) (f : ρ → ρ) : Prop :=
  ∀ entry ∈ columns, ∀ row, entry.2.cell (f row) = entry.2.cell row

/-- A column that is found under a name does not see what none of the columns sees. -/
theorem ColumnMap.Overlooks.cell_eq (h : columns.Overlooks f) {name : String} {c : Column ρ}
    (hc : columns.lookup name = some c) (row : ρ) : c.cell (f row) = c.cell row := by
  obtain ⟨before, after, rfl, -⟩ := List.lookup_eq_some_iff.mp hc
  exact h (name, c) (by simp) row

/-- A single predicate does not see what its column does not see. -/
theorem Column.meets_congr {c : Column ρ} {a b : ρ} (h : c.cell a = c.cell b) (op : Op) (v : Operand) :
    c.meets a op v = c.meets b op v := by
  cases op <;> cases v <;> simp only [meets, h]

namespace Node

mutual

/-- A tree of predicates does not see what the columns do not see.  Induction over the tree. -/
theorem holds_map (h : columns.Overlooks f) (row : ρ) :
    ∀ n : Node, n.holds columns (f row) = n.holds columns row
  | .test field op v => by
    unfold holds
    cases hc : columns.lookup field with
    | none => rfl
    | some c => exact Column.meets_congr (h.cell_eq hc row) op v
  | .all items => by
    unfold holds
    exact holdAll_map h row items
  | .any items => by
    unfold holds
    rw [holdSome_map h row items]
  | .foreign _ => rfl

/-- Trees together do not see what the columns do not see. -/
theorem holdAll_map (h : columns.Overlooks f) (row : ρ) :
    ∀ ns : List Node, holdAll columns (f row) ns = holdAll columns row ns
  | [] => rfl
  | n :: ns => by
    unfold holdAll
    rw [holds_map h row n, holdAll_map h row ns]

/-- Alternative trees do not see what the columns do not see. -/
theorem holdSome_map (h : columns.Overlooks f) (row : ρ) :
    ∀ ns : List Node, holdSome columns (f row) ns = holdSome columns row ns
  | [] => rfl
  | n :: ns => by
    unfold holdSome
    rw [holds_map h row n, holdSome_map h row ns]

end

/-- The condition of a tree does not see what the columns do not see. -/
theorem selects_map (h : columns.Overlooks f) (row : ρ) (n : Node) :
    n.selects columns (f row) = n.selects columns row := by
  cases hn : condition columns n with
  | ok o => rw [selects_of_condition hn, selects_of_condition hn, holds_map h]
  | error e =>
    unfold selects
    rw [hn]

end Node

namespace Directive

variable {d : Directive}

/-- A directive keeps a row whatever is done to it that the columns do not see. -/
theorem keeps_map (h : columns.Overlooks f) (row : ρ) : d.keeps columns (f row) = d.keeps columns row := by
  unfold keeps
  simp only [Node.holds_map h]

/-- The columns to sort by are columns of the table. -/
theorem exists_lookup_of_sortKeys {keys : List (SortKey ρ)} (hkeys : d.sortKeys columns = .ok keys) :
    ∀ k ∈ keys, ∃ name, columns.lookup name = some k.column := by
  unfold sortKeys at hkeys
  simp only [bind_eq_ok_iff, pure_eq_ok_iff, Node.column_eq_ok_iff, mapM_eq_ok_iff] at hkeys
  obtain ⟨first, hfirst, rest, hrest, rfl⟩ := hkeys
  rw [List.forall_mem_cons, List.forall_mem_map]
  refine ⟨⟨_, hfirst⟩, fun c hc => ?_⟩
  obtain ⟨i, hi, rfl⟩ := List.getElem_of_mem hc
  exact ⟨_, hrest.get (hrest.length_eq ▸ hi) hi⟩

/-- Rows are compared by cells alone. -/
theorem SortKey.leBy_map {keys : List (SortKey ρ)}
    (hkeys : ∀ k ∈ keys, ∀ row, k.column.cell (f row) = k.column.cell row) (a b : ρ) :
    leBy keys (f a) (f b) = leBy keys a b := by
  induction keys with
  | nil => rfl
  | cons k ks ih =>
    rw [List.forall_mem_cons] at hkeys
    unfold leBy SortKey.le
    rw [hkeys.1, hkeys.1, ih hkeys.2]

/-- A row that was changed where no key sees it has the place that the row had. -/
theorem place_map {keys : List (SortKey ρ)}
    (hkeys : ∀ k ∈ keys, ∀ row, k.column.cell (f row) = k.column.cell row) (row : ρ) (rows : List ρ) :
    place keys (f row) (rows.map f) = (place keys row rows).map f := by
  induction rows with
  | nil => rfl
  | cons r rs ih =>
    rw [List.map_cons, place, place, SortKey.leBy_map hkeys, ih]
    split <;> rfl

/-- Rows that were changed where no key sees it are sorted as the rows were. -/
theorem sorted_map {keys : List (SortKey ρ)}
    (hkeys : ∀ k ∈ keys, ∀ row, k.column.cell (f row) = k.column.cell row) (rows : List ρ) :
    sorted keys (rows.map f) = (sorted keys rows).map f := by
  induction rows using List.reverseRecOn with
  | nil => rfl
  | append_singleton rows row ih =>
    rw [List.map_append, List.map_singleton, sorted_concat, sorted_concat, ih, place_map hkeys]

/-- Rows that were changed where no column sees it are listed as the rows were. -/
theorem list_map (h : columns.Overlooks f) (rows : List ρ) :
    d.list columns (rows.map f) =
      (fun l : Listing ρ => ⟨l.rows.map f, l.total⟩) <$> d.list columns rows := by
  have hkept : (rows.map f).filter (d.keeps columns) = (rows.filter (d.keeps columns)).map f := by
    rw [List.filter_map]
    refine congrArg (List.map f) (List.filter_congr fun row _ => ?_)
    exact keeps_map h row
  unfold list
  cases hconditions : Node.conditions columns d.predicates with
  | error e => rfl
  | ok conditions =>
    simp only [ok_bind, matching_eq_filter hconditions, hkept]
    cases Condition.defectIn? conditions with
    | some failure => rfl
    | none =>
      cases hkeys : d.sortKeys columns with
      | error e => rfl
      | ok keys =>
        have hcells : ∀ k ∈ keys, ∀ row, k.column.cell (f row) = k.column.cell row := by
          intro k hk row
          obtain ⟨name, hname⟩ := exists_lookup_of_sortKeys hkeys k hk
          exact h.cell_eq hname row
        simp only [ok_bind, sortedPage_eq, sorted_map hcells, page_map, List.length_map]
        cases fitsWord d.limit && fitsWord d.offset <;> rfl

end Directive

/-- A table of rows that were changed where no column sees it, and not in their numbers, is listed as the
table was. -/
theorem AccessPath.list_map (path : AccessPath) {number : ρ → ℤ} {d : Directive} (h : columns.Overlooks f)
    (hnumber : ∀ row, number (f row) = number row) (rows : List ρ) :
    path.list number columns d (rows.map f) =
      (fun l : Listing ρ => ⟨l.rows.map f, l.total⟩) <$> path.list number columns d rows := by
  have hview : ∀ row, view number columns d (f row) = view number columns d row := by
    intro row
    unfold view
    simp only [hnumber, Node.selects_map h, List.map_congr_left fun c hc => h c hc row]
  unfold list
  rw [path.visit_map hview, Directive.list_map h]

end Backoffice
