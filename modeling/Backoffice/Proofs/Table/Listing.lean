import Mathlib
import Backoffice.Proofs.Table.Order
import Backoffice.Proofs.Table.Selection

/-!
# What a directive lists

A directive that can be carried out lists one page of the rows that it keeps, in the order of its
keys, and counts them all (`Directive.list_eq_ok_iff`).  Whether it can be carried out does not depend
on the rows.
-/

namespace Backoffice.Directive

variable {ρ : Type}

/-- The directive keeps the row: the row satisfies all predicates. -/
def keeps (d : Directive) (columns : ColumnMap ρ) (row : ρ) : Bool :=
  d.predicates.all fun n => n.holds columns row

/-- The directive can be carried out with these conditions and these sort keys. -/
structure Executable (d : Directive) (columns : ColumnMap ρ) (conditions : List (Condition ρ))
    (keys : List (SortKey ρ)) : Prop where
  conditions_eq : Node.conditions columns d.predicates = .ok conditions
  no_defect : Condition.defectIn? conditions = none
  keys_eq : d.sortKeys columns = .ok keys
  limit_fits : fitsWord d.limit = true
  offset_fits : fitsWord d.offset = true

/-- The conditions of a directive keep the rows that the directive keeps. -/
theorem matching_eq_filter {d : Directive} {columns : ColumnMap ρ} {conditions : List (Condition ρ)}
    (h : Node.conditions columns d.predicates = .ok conditions) (rows : List ρ) :
    matching conditions rows = rows.filter (d.keeps columns) := by
  unfold matching keeps
  refine List.filter_congr fun row _ => ?_
  rw [Bool.eq_iff_iff, List.all_eq_true, List.all_eq_true, (Node.renders_of_conditions h).all_iff row]
  exact Node.holdAll_eq_true_iff

/-- Carrying out a directive gives one page of the rows that it keeps, in the order of its keys, and
their number; and it gives a result exactly if the directive can be carried out. -/
theorem list_eq_ok_iff {d : Directive} {columns : ColumnMap ρ} {rows : List ρ} {l : Listing ρ} :
    d.list columns rows = .ok l ↔
      ∃ conditions keys, d.Executable columns conditions keys ∧
        l = ⟨page d.limit d.offset (sorted keys (rows.filter (d.keeps columns))),
          (rows.filter (d.keeps columns)).length⟩ := by
  constructor
  · intro h
    unfold list at h
    cases hc : Node.conditions columns d.predicates with
    | error e => rw [hc] at h; cases h
    | ok conditions =>
      rw [hc] at h
      simp only [bind, Except.bind] at h
      cases hd : Condition.defectIn? conditions with
      | some f => rw [hd] at h; cases h
      | none =>
        rw [hd] at h
        cases hk : d.sortKeys columns with
        | error e => rw [hk] at h; cases h
        | ok keys =>
          rw [hk] at h
          simp only [pure, Except.pure] at h
          cases hf : fitsWord d.limit && fitsWord d.offset with
          | false => simp [hf] at h
          | true =>
            simp only [hf, Bool.not_true, Bool.false_eq_true, if_false, Except.ok.injEq] at h
            rw [matching_eq_filter hc, sortedPage_eq] at h
            rw [Bool.and_eq_true] at hf
            exact ⟨conditions, keys, ⟨hc, hd, hk, hf.1, hf.2⟩, h.symm⟩
  · rintro ⟨conditions, keys, hx, rfl⟩
    unfold list
    rw [hx.conditions_eq]
    simp only [bind, Except.bind]
    rw [hx.no_defect, hx.keys_eq]
    simp only [pure, Except.pure, hx.limit_fits, hx.offset_fits, Bool.and_self, Bool.not_true,
      Bool.false_eq_true, if_false]
    rw [matching_eq_filter hx.conditions_eq, sortedPage_eq]

/-- Of the rows only those count that the directive keeps, whether it can be carried out or not. -/
theorem list_congr {d : Directive} {columns : ColumnMap ρ} {rows rows' : List ρ}
    (h : rows.filter (d.keeps columns) = rows'.filter (d.keeps columns)) :
    d.list columns rows = d.list columns rows' := by
  unfold list
  cases hconditions : Node.conditions columns d.predicates with
  | error e => rfl
  | ok conditions =>
    have hmatching : matching conditions rows = matching conditions rows' := by
      rw [matching_eq_filter hconditions, matching_eq_filter hconditions, h]
    simp only [ok_bind, hmatching]

/-- The columns to sort by are there if the table knows the fields. -/
theorem exists_sortKeys {d : Directive} {columns : ColumnMap ρ}
    (hfirst : ∃ c, columns.lookup d.sortField = some c)
    (hrest : ∀ f ∈ d.thenBy, ∃ c, columns.lookup f = some c) : ∃ keys, d.sortKeys columns = .ok keys := by
  obtain ⟨first, hfirst⟩ := hfirst
  have hothers : ∃ others, d.thenBy.mapM (Node.column columns) = .ok others := by
    refine exists_mapM_eq_ok_iff.mpr fun f hf => ?_
    obtain ⟨c, hc⟩ := hrest f hf
    exact ⟨c, Node.column_eq_ok_iff.mpr hc⟩
  obtain ⟨others, hothers⟩ := hothers
  unfold sortKeys
  simp only [bind_eq_ok_iff, pure_eq_ok_iff]
  exact ⟨_, first, Node.column_eq_ok_iff.mpr hfirst, others, hothers, rfl⟩

/-- A directive whose conditions have a defect, or whose page does not fit 64 bits, fails; the defect
is noticed first. -/
theorem list_eq_error {d : Directive} {columns : ColumnMap ρ} {rows : List ρ}
    {conditions : List (Condition ρ)} {keys : List (SortKey ρ)}
    (hconditions : Node.conditions columns d.predicates = .ok conditions)
    (hkeys : d.sortKeys columns = .ok keys) (hunfit : Condition.defectIn? conditions ≠ none ∨
      (fitsWord d.limit && fitsWord d.offset) = false) :
    d.list columns rows =
      .error ((Condition.defectIn? conditions).getD (.overflow .parameter)) := by
  unfold list
  simp only [hconditions, hkeys, ok_bind]
  cases hdefect : Condition.defectIn? conditions with
  | some e => rfl
  | none =>
    have hpage := hunfit.resolve_left (fun hne => hne hdefect)
    simp only [hpage]
    rfl

/-- A page of a limit and an offset that are not negative. -/
theorem page_of_nonneg {limit offset : Int} (hl : 0 ≤ limit) (rows : List ρ) :
    page limit offset rows = (rows.drop offset.toNat).take limit.toNat := by
  unfold page
  rw [if_neg (not_lt.mpr hl)]

/-- A page of rows that are shown in some form. -/
theorem page_map {σ : Type} (view : ρ → σ) (limit offset : Int) (rows : List ρ) :
    page limit offset (rows.map view) = (page limit offset rows).map view := by
  unfold page
  simp only [← List.map_drop, ← List.map_take]
  split <;> rfl

/-! ### Numbers that do not fit -/

/-- The trees have conditions, and a statement with them needs no more than `fits`: otherwise it fails
on a number that does not fit 64 bits. -/
structure NeedsOnly (columns : ColumnMap ρ) (ns : List Node) (fits : Prop) : Prop where
  rendered : ∀ n ∈ ns, n.IsRendered columns
  overflow : ∀ n ∈ ns, ∀ e, n.defect? = some e → e = .overflow .parameter
  none_iff : Node.defectIn? ns = none ↔ fits

/-- Rows that are selected beside those of the trees need no more than that their numbers fit too. -/
theorem NeedsOnly.orSelected {columns : ColumnMap ρ} {ns : List Node} {fits : Prop} {key : String}
    {c : Column ρ} {ids : List Int} (h : NeedsOnly columns ns fits) (hc : columns.lookup key = some c) :
    NeedsOnly columns [.any [.all ns, .test key .within (.list (ids.map .int))]]
      (fits ∧ ∀ n ∈ ids, fitsWord n = true) := by
  have hdefect : Node.defect? (.any [.all ns, .test key .within (.list (ids.map .int))]) =
      (Node.defectIn? ns).or (ids.findSome? fun n => (Parameter.int n).defect?) := by
    simp only [Node.defect?, Node.defectIn?, Node.testDefect?_within_ints, Option.or_none]
  refine ⟨?_, ?_, ?_⟩
  · rw [List.forall_mem_singleton]
    refine Node.isRendered_any_iff.mpr ?_
    rw [List.forall_mem_cons, List.forall_mem_singleton]
    exact ⟨Node.isRendered_all h.rendered,
      Node.isRendered_test hc (Node.testCondition_within_ints c ids)⟩
  · rw [List.forall_mem_singleton]
    intro e he
    rw [hdefect, Option.or_eq_some_iff] at he
    rcases he with hfirst | ⟨-, hsecond⟩
    · have hsome := Node.defectIn?_eq_some h.overflow (by rw [hfirst]; exact Option.some_ne_none e)
      exact Option.some.inj (hfirst.symm.trans hsome)
    · obtain ⟨n, -, hn⟩ := List.exists_of_findSome?_eq_some hsecond
      exact Parameter.eq_overflow_of_defect?_int hn
  · rw [Node.defectIn?_eq_none_iff, List.forall_mem_singleton, hdefect, Option.or_eq_none_iff, h.none_iff,
      List.findSome?_eq_none_iff]
    simp only [Parameter.defect?_int_eq_none_iff]

/-- Trees that need the same fail on the same. -/
theorem NeedsOnly.defectIn?_eq {columns : ColumnMap ρ} {ns ms : List Node} {fits : Prop}
    (h : NeedsOnly columns ns fits) (h' : NeedsOnly columns ms fits) :
    Node.defectIn? ns = Node.defectIn? ms := by
  by_cases hfits : fits
  · rw [h.none_iff.mpr hfits, h'.none_iff.mpr hfits]
  · rw [Node.defectIn?_eq_some h.overflow fun hnone => hfits (h.none_iff.mp hnone),
      Node.defectIn?_eq_some h'.overflow fun hnone => hfits (h'.none_iff.mp hnone)]

/-- Predicates that need the same and hold of the same rows can be exchanged. -/
theorem list_predicates_congr {d : Directive} {columns : ColumnMap ρ} {ms : List Node} {fits : Prop}
    (h : NeedsOnly columns d.predicates fits) (h' : NeedsOnly columns ms fits)
    (hrows : ∀ row, Node.holdAll columns row d.predicates = Node.holdAll columns row ms) (rows : List ρ) :
    d.list columns rows = { d with predicates := ms }.list columns rows := by
  obtain ⟨cs, hcs⟩ := Node.exists_conditions_iff.mpr h.rendered
  obtain ⟨ds, hds⟩ := Node.exists_conditions_iff.mpr h'.rendered
  have hdefect : Condition.defectIn? cs = Condition.defectIn? ds := by
    rw [Node.defectIn?_of_conditions hcs, Node.defectIn?_of_conditions hds, h.defectIn?_eq h']
  have hmatching : matching cs rows = matching ds rows := by
    unfold matching
    refine List.filter_congr fun row _ => ?_
    rw [Bool.eq_iff_iff, List.all_eq_true, List.all_eq_true, (Node.renders_of_conditions hcs).all_iff row,
      (Node.renders_of_conditions hds).all_iff row, hrows row]
  unfold list
  simp only [hcs, hds, ok_bind, hdefect, hmatching]
  rfl

/-- The outcome is a result if the numbers fit, and an overflow if they do not. -/
def ResultsIf {α : Type} (x : Except Failure α) (fits : Prop) : Prop :=
  (fits → ∃ a, x = .ok a) ∧ (¬ fits → x = .error (.overflow .parameter))

/-- A directive on known columns is carried out if its numbers fit 64 bits, and overflows if not. -/
theorem list_of_needsOnly {d : Directive} {columns : ColumnMap ρ} {rows : List ρ} {fits : Prop}
    (h : NeedsOnly columns d.predicates fits) (hkeys : ∃ keys, d.sortKeys columns = .ok keys) :
    ResultsIf (d.list columns rows)
      (fits ∧ fitsWord d.limit = true ∧ fitsWord d.offset = true) := by
  obtain ⟨conditions, hconditions⟩ := Node.exists_conditions_iff.mpr h.rendered
  obtain ⟨keys, hkeys⟩ := hkeys
  have hdefects := Node.defectIn?_of_conditions hconditions
  constructor
  · rintro ⟨hfits, hlimit, hoffset⟩
    have hnone : Condition.defectIn? conditions = none := hdefects.trans (h.none_iff.mpr hfits)
    exact ⟨_, list_eq_ok_iff.mpr ⟨conditions, keys, ⟨hconditions, hnone, hkeys, hlimit, hoffset⟩, rfl⟩⟩
  · intro hunfit
    have hbad : Condition.defectIn? conditions ≠ none ∨
        (fitsWord d.limit && fitsWord d.offset) = false := by
      rw [hdefects, Ne, h.none_iff, ← Bool.not_eq_true, Bool.and_eq_true]
      exact not_and_or.mp hunfit
    rw [list_eq_error hconditions hkeys hbad, hdefects]
    cases hsome : Node.defectIn? d.predicates with
    | none => rfl
    | some e =>
      have hoverflow := Node.defectIn?_eq_some h.overflow (by rw [hsome]; exact Option.some_ne_none e)
      rw [hsome] at hoverflow
      exact congrArg Except.error (Option.some.inj hoverflow)

end Backoffice.Directive
