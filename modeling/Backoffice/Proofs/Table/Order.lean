import Mathlib
import Backoffice.Table.Listing

/-!
# The order of rows

Cells are linearly ordered, with null before everything else.  A list of sort keys compares rows by
the first key that tells them apart; this is a total preorder, so sorting rearranges the rows and
puts them in order.  A page needs no more rows than those up to its end: the rows that are kept for it
are the first of the sorted rows (`Directive.leading_eq`).
-/

namespace Backoffice

namespace Cell

/-- Null is at most every cell. -/
@[simp] theorem null_le (a : Cell) : Cell.null.le a = true := by
  cases a <;> rfl

/-- Integers are compared as integers. -/
@[simp] theorem int_le_int {m n : Int} : (Cell.int m).le (.int n) = true ↔ m ≤ n := by
  simp [le]

/-- Texts are compared by code point. -/
@[simp] theorem text_le_text {s t : String} : (Cell.text s).le (.text t) = true ↔ s ≤ t := by
  simp [le]

/-- Every cell is at most itself. -/
@[simp] protected theorem le_refl (a : Cell) : a.le a = true := by
  cases a <;> simp [le]

/-- Of two cells one is at most the other. -/
protected theorem le_total (a b : Cell) : a.le b = true ∨ b.le a = true := by
  cases a <;> cases b <;> simp [le] <;> first | omega | exact le_total _ _

/-- The order of cells is transitive. -/
protected theorem le_trans {a b c : Cell} (hab : a.le b = true) (hbc : b.le c = true) :
    a.le c = true := by
  cases a <;> cases b <;> cases c <;> simp [le] at hab hbc ⊢ <;>
    first | omega | exact le_trans hab hbc

/-- Cells that are at most each other are the same. -/
protected theorem le_antisymm {a b : Cell} (hab : a.le b = true) (hba : b.le a = true) : a = b := by
  cases a <;> cases b <;> simp [le] at hab hba ⊢ <;> first | omega | exact le_antisymm hab hba

/-- Above a cell that is not null no cell is null. -/
theorem ne_null_of_le {a b : Cell} (hab : a.le b = true) (ha : a ≠ .null) : b ≠ .null := by
  rintro rfl
  exact ha (Cell.le_antisymm hab (null_le a))

/-- One cell is less than another exactly if it is at most the other and not the same. -/
theorem lt_iff {a b : Cell} : a.lt b = true ↔ a.le b = true ∧ a ≠ b := by
  unfold lt
  rw [Bool.not_eq_true']
  constructor
  · intro h
    rcases Cell.le_total a b with hab | hba
    · refine ⟨hab, ?_⟩
      rintro rfl
      rw [Cell.le_refl] at h
      exact absurd h (by decide)
    · rw [h] at hba
      exact absurd hba (by decide)
  · rintro ⟨hab, hne⟩
    cases hba : b.le a with
    | false => rfl
    | true => exact absurd (Cell.le_antisymm hab hba) hne

end Cell

namespace Directive

variable {ρ : Type}

namespace SortKey

/-- Rows with the same cell are at most each other. -/
theorem le_of_cell_eq {k : SortKey ρ} {a b : ρ} (h : k.column.cell a = k.column.cell b) :
    k.le a b = true := by
  unfold le
  rw [h]
  split <;> exact Cell.le_refl _

/-- A key compares any two rows. -/
theorem le_total (k : SortKey ρ) (a b : ρ) : k.le a b = true ∨ k.le b a = true := by
  unfold le
  split
  · exact Cell.le_total _ _
  · exact Cell.le_total _ _

/-- The comparison by one key is transitive. -/
theorem le_trans {k : SortKey ρ} {a b c : ρ} (hab : k.le a b = true) (hbc : k.le b c = true) :
    k.le a c = true := by
  unfold le at hab hbc ⊢
  split at hab
  · rename_i hup
    rw [if_pos hup] at hbc ⊢
    exact Cell.le_trans hab hbc
  · rename_i hdown
    rw [if_neg hdown] at hbc ⊢
    exact Cell.le_trans hbc hab

/-- Rows that are at most each other by one key have the same cell. -/
theorem cell_eq_of_le_of_le {k : SortKey ρ} {a b : ρ} (hab : k.le a b = true)
    (hba : k.le b a = true) : k.column.cell a = k.column.cell b := by
  unfold le at hab hba
  split at hab
  · rename_i hup
    rw [if_pos hup] at hba
    exact Cell.le_antisymm hab hba
  · rename_i hdown
    rw [if_neg hdown] at hba
    exact Cell.le_antisymm hba hab

/-- A single key compares rows by its cells alone. -/
theorem leBy_singleton (k : SortKey ρ) (a b : ρ) : leBy [k] a b = k.le a b := by
  unfold leBy
  split
  · rename_i h
    rw [le_of_cell_eq h]
    rfl
  · rfl

/-- The keys compare any two rows. -/
theorem leBy_total (keys : List (SortKey ρ)) (a b : ρ) :
    leBy keys a b = true ∨ leBy keys b a = true := by
  induction keys with
  | nil => exact Or.inl rfl
  | cons k ks ih =>
    unfold leBy
    by_cases h : k.column.cell a = k.column.cell b
    · rw [if_pos h, if_pos h.symm]
      exact ih
    · rw [if_neg h, if_neg (Ne.symm h)]
      exact k.le_total a b

/-- The comparison by the keys is transitive: if neither step is decided by the first key, the other
keys decide; otherwise the first key decides, because equal cells at both ends would make all three
cells equal. -/
theorem leBy_trans (keys : List (SortKey ρ)) {a b c : ρ} (hab : leBy keys a b = true)
    (hbc : leBy keys b c = true) : leBy keys a c = true := by
  induction keys with
  | nil => rfl
  | cons k ks ih =>
    unfold leBy at hab hbc ⊢
    by_cases eab : k.column.cell a = k.column.cell b
    · rw [if_pos eab] at hab
      by_cases ebc : k.column.cell b = k.column.cell c
      · rw [if_pos ebc] at hbc
        rw [if_pos (eab.trans ebc)]
        exact ih hab hbc
      · rw [if_neg ebc] at hbc
        rw [if_neg (eab ▸ ebc)]
        exact le_trans (le_of_cell_eq eab) hbc
    · rw [if_neg eab] at hab
      have hbc' : k.le b c = true := by
        by_cases ebc : k.column.cell b = k.column.cell c
        · exact le_of_cell_eq ebc
        · rwa [if_neg ebc] at hbc
      have eac : k.column.cell a ≠ k.column.cell c := by
        intro eac
        have hba : k.le b a = true := le_trans hbc' (le_of_cell_eq eac.symm)
        exact eab (cell_eq_of_le_of_le hab hba)
      rw [if_neg eac]
      exact le_trans hab hbc'

/-- Rows that are at most each other by the keys have the same cells by all of them. -/
theorem cell_eq_of_leBy_of_leBy {keys : List (SortKey ρ)} {a b : ρ} (hab : leBy keys a b = true)
    (hba : leBy keys b a = true) : ∀ k ∈ keys, k.column.cell a = k.column.cell b := by
  induction keys with
  | nil => exact fun k hk => nomatch hk
  | cons k ks ih =>
    unfold leBy at hab hba
    by_cases h : k.column.cell a = k.column.cell b
    · rw [if_pos h] at hab
      rw [if_pos h.symm] at hba
      exact List.forall_mem_cons.mpr ⟨h, ih hab hba⟩
    · rw [if_neg h] at hab
      rw [if_neg (Ne.symm h)] at hba
      exact absurd (cell_eq_of_le_of_le hab hba) h

end SortKey

/-- The rows stand in the order of the keys. -/
def Ordered (keys : List (SortKey ρ)) (rows : List ρ) : Prop :=
  rows.Pairwise fun a b => SortKey.leBy keys a b = true

variable {keys : List (SortKey ρ)}

/-! ### One row after the other -/

/-- Putting a row in its place adds the row. -/
theorem place_perm (keys : List (SortKey ρ)) (row : ρ) (rows : List ρ) :
    (place keys row rows).Perm (row :: rows) := by
  induction rows with
  | nil => exact .refl _
  | cons r rs ih =>
    unfold place
    split
    · exact (ih.cons r).trans (.swap row r rs)
    · exact .refl _

/-- Putting a row in its place keeps rows in order. -/
theorem Ordered.place {rows : List ρ} (h : Ordered keys rows) (row : ρ) :
    Ordered keys (place keys row rows) := by
  induction rows with
  | nil => exact List.pairwise_singleton _ _
  | cons r rs ih =>
    obtain ⟨hr, hrs⟩ := List.pairwise_cons.mp h
    unfold Directive.place
    split
    · rename_i hbehind
      refine List.pairwise_cons.mpr ⟨fun b hb => ?_, ih hrs⟩
      rcases List.mem_cons.mp ((place_perm keys row rs).mem_iff.mp hb) with rfl | hb
      · exact hbehind
      · exact hr b hb
    · rename_i hbefore
      have hrow : SortKey.leBy keys row r = true :=
        (SortKey.leBy_total keys row r).resolve_right hbefore
      refine List.pairwise_cons.mpr ⟨fun b hb => ?_, h⟩
      rcases List.mem_cons.mp hb with rfl | hb
      · exact hrow
      · exact SortKey.leBy_trans keys hrow (hr b hb)

/-- Among the first rows a row has the place that it has among all, as far as these go. -/
theorem take_place_take (row : ρ) (rows : List ρ) (count : ℕ) :
    (place keys row (rows.take count)).take count = (place keys row rows).take count := by
  induction rows generalizing count with
  | nil => rw [List.take_nil]
  | cons r rs ih =>
    cases count with
    | zero => rw [List.take_zero, List.take_zero]
    | succ count =>
      rw [List.take_succ_cons, place, place]
      split
      · rw [List.take_succ_cons, List.take_succ_cons, ih]
      · have hfront : (r :: rs.take count).take count = (r :: rs).take count := by
          rw [← List.take_succ_cons, List.take_take, min_eq_left (Nat.le_succ count)]
        rw [List.take_succ_cons, List.take_succ_cons, hfront]

/-! ### Sorting -/

/-- The last row is put in its place among the others. -/
theorem sorted_concat (keys : List (SortKey ρ)) (rows : List ρ) (row : ρ) :
    sorted keys (rows ++ [row]) = place keys row (sorted keys rows) :=
  List.foldl_concat ..

/-- Sorting neither loses nor adds rows.  Induction over the rows from the last on. -/
theorem sorted_perm (keys : List (SortKey ρ)) (rows : List ρ) : (sorted keys rows).Perm rows := by
  induction rows using List.reverseRecOn with
  | nil => exact .nil
  | append_singleton rows row ih =>
    rw [sorted_concat]
    exact (place_perm keys row _).trans ((ih.cons row).trans (List.perm_append_singleton row rows).symm)

/-- Sorting puts the rows in the order of the keys. -/
theorem ordered_sorted (keys : List (SortKey ρ)) (rows : List ρ) :
    Ordered keys (sorted keys rows) := by
  induction rows using List.reverseRecOn with
  | nil => exact .nil
  | append_singleton rows row ih =>
    rw [sorted_concat]
    exact ih.place row

/-- The rows that are kept while going through the rows are the first of the sorted ones. -/
theorem leading_eq (keys : List (SortKey ρ)) (count : ℕ) (rows : List ρ) :
    leading keys count rows = (sorted keys rows).take count := by
  induction rows using List.reverseRecOn with
  | nil => exact List.take_nil.symm
  | append_singleton rows row ih =>
    rw [leading, List.foldl_concat, ← leading, ih, take_place_take, sorted_concat]

/-- The page for which only its rows and those before it were kept is the page of all rows. -/
theorem sortedPage_eq (keys : List (SortKey ρ)) (limit offset : Int) (rows : List ρ) :
    sortedPage keys limit offset rows = page limit offset (sorted keys rows) := by
  unfold sortedPage
  split
  · rfl
  · rename_i hlimit
    unfold page
    rw [if_neg hlimit, if_neg hlimit, leading_eq, List.drop_take, Nat.add_sub_cancel_left, List.take_take,
      min_self]

end Directive

end Backoffice
