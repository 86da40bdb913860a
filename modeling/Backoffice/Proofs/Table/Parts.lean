import Mathlib
import Backoffice.Proofs.Table.Filters

/-!
# The parts of predicate trees

What a tree of predicates mentions at any depth.  A tree that has a condition mentions only known columns
and operators (`Node.IsRendered.of_isPart`), and the trees of filters and searches mention only the fields
that these are on.
-/

namespace Backoffice

namespace Node

variable {ρ : Type} {columns : ColumnMap ρ} {m n : Node} {fields : List String}

/-- The first tree occurs in the second, at any depth. -/
inductive IsPart (m : Node) : Node → Prop
  | refl : IsPart m m
  | all {n : Node} {items : List Node} (hn : n ∈ items) (hm : IsPart m n) : IsPart m (.all items)
  | any {n : Node} {items : List Node} (hn : n ∈ items) (hm : IsPart m n) : IsPart m (.any items)

/-- Only a single predicate occurs in itself. -/
theorem isPart_test_iff {field : String} {op : Op} {v : Operand} :
    m.IsPart (.test field op v) ↔ m = .test field op v := by
  constructor
  · rintro ⟨⟩
    rfl
  · rintro rfl
    exact .refl

/-- Every part of a tree that has a condition has one.  Induction over the place of the part. -/
theorem IsRendered.of_isPart (hpart : m.IsPart n) (h : n.IsRendered columns) : m.IsRendered columns := by
  induction hpart with
  | refl => exact h
  | all hn hm ih =>
    obtain ⟨o, ho⟩ := h
    obtain ⟨cs, hcs, -⟩ := condition_all_eq_ok_iff.mp ho
    exact ih (exists_conditions_iff.mp ⟨cs, hcs⟩ _ hn)
  | any hn hm ih =>
    obtain ⟨o, ho⟩ := h
    obtain ⟨cs, hcs, -⟩ := condition_any_eq_ok_iff.mp ho
    exact ih (exists_conditions_iff.mp ⟨cs, hcs⟩ _ hn)

/-- A single predicate that has a condition is on a known column, and its operator is one that tables can
answer. -/
theorem IsRendered.exists_column {field : String} {op : Op} {v : Operand}
    (h : (Node.test field op v).IsRendered columns) :
    (∃ c, columns.lookup field = some c) ∧ op ∈ Op.all := by
  obtain ⟨o, ho⟩ := h
  obtain ⟨c, cond, hc, hcond, -⟩ := condition_test_eq_ok_iff.mp ho
  refine ⟨⟨c, hc⟩, ?_⟩
  cases op with
  | other symbol => cases hcond
  | _ => decide

/-- What is no predicate has no condition. -/
theorem not_isRendered_foreign (kind : String) : ¬ (Node.foreign kind).IsRendered columns := by
  rintro ⟨o, ho⟩
  cases ho

/-! ### The fields of filters and searches -/

/-- All predicates of the tree are on these fields. -/
def IsOn (fields : List String) (n : Node) : Prop :=
  ∀ field op v, (Node.test field op v).IsPart n → field ∈ fields

/-- A single predicate is on its field. -/
theorem isOn_test {field : String} {op : Op} {v : Operand} (h : field ∈ fields) :
    (Node.test field op v).IsOn fields := by
  intro field' op' v' hpart
  cases isPart_test_iff.mp hpart
  exact h

/-- A conjunction is on the fields that its items are on. -/
theorem isOn_all {items : List Node} (h : ∀ n ∈ items, n.IsOn fields) : (Node.all items).IsOn fields := by
  intro field op v hpart
  cases hpart with
  | all hn hm => exact h _ hn field op v hm

/-- A disjunction is on the fields that its items are on. -/
theorem isOn_any {items : List Node} (h : ∀ n ∈ items, n.IsOn fields) : (Node.any items).IsOn fields := by
  intro field op v hpart
  cases hpart with
  | any hn hm => exact h _ hn field op v hm

/-- A search is on the fields to search. -/
theorem isOn_containsAny {searched : List String} {term : String} (hsearched : ∀ f ∈ searched, f ∈ fields)
    (h : containsAny searched term = some n) : n.IsOn fields := by
  unfold containsAny at h
  split at h
  · cases h
  · cases h
    exact isOn_any (List.forall_mem_map.mpr fun f hf => isOn_test (hsearched f hf))

end Node

/-- The predicate of an equality filter is on its field. -/
theorem EqualityFilter.isOn_predicate {f : EqualityFilter} {fields : List String}
    (h : f.fieldName ∈ fields) : f.predicate.IsOn fields := by
  unfold predicate
  exact Node.isOn_test h

/-- The predicate of a date range filter is on its field. -/
theorem DateRangeFilter.isOn_predicate {f : DateRangeFilter} {fields : List String} {n : Node}
    (h : f.fieldName ∈ fields) (happlicable : f.isApplicable = true) (hn : f.predicate = .ok n) :
    n.IsOn fields := by
  have htwo : ∀ op op' v v', (Node.all [.test f.fieldName op v, .test f.fieldName op' v']).IsOn fields := by
    intro op op' v v'
    refine Node.isOn_all (List.forall_mem_cons.mpr ⟨Node.isOn_test h, ?_⟩)
    exact List.forall_mem_singleton.mpr (Node.isOn_test h)
  by_cases hrange : f.isRange = true
  · obtain ⟨a, b, ha, hb⟩ := bounds_of_isApplicable happlicable hrange
    rw [predicate_of_range hrange ha hb] at hn
    cases hn
    exact htwo _ _ _ _
  · obtain ⟨start, first, last, -, -, -, rfl⟩ := bounds_of_predicate happlicable hrange hn
    exact htwo _ _ _ _

end Backoffice
