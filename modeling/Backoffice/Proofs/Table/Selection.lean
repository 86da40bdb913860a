import Mathlib
import Backoffice.Proofs.Table.Order
import Backoffice.Proofs.Table.Rendering

/-!
# Which rows are selected

A reading of predicate trees with two truth values: `Column.meets` says when a row satisfies a single
predicate, `Node.holds` when it satisfies a tree.  The condition of a tree is evaluated with three
truth values.  Still it selects exactly the rows that satisfy the tree (`Node.renders_of_condition`),
since unknown conditions never make a row count.
-/

namespace Backoffice

/-! ### Three truth values -/

/-- A conjunction is true only if both parts are. -/
theorem and3_eq_true_iff {a b : Option Bool} :
    and3 a b = some true ↔ a = some true ∧ b = some true := by
  rcases a with _ | _ | _ <;> rcases b with _ | _ | _ <;> simp [and3]

/-- A disjunction is true only if one of its parts is. -/
theorem or3_eq_true_iff {a b : Option Bool} :
    or3 a b = some true ↔ a = some true ∨ b = some true := by
  rcases a with _ | _ | _ <;> rcases b with _ | _ | _ <;> simp [or3]

namespace Condition

variable {ρ : Type}

/-- A list of conditions is true of a row if each of them selects it. -/
theorem truthAll_eq_true_iff {row : ρ} {cs : List (Condition ρ)} :
    truthAll row cs = some true ↔ ∀ c ∈ cs, c.selects row = true := by
  induction cs with
  | nil => simp [truthAll]
  | cons c cs ih =>
    rw [truthAll, and3_eq_true_iff, ih]
    simp [selects]

/-- One of a list of conditions is true of a row if one of them selects it. -/
theorem truthAny_eq_true_iff {row : ρ} {cs : List (Condition ρ)} :
    truthAny row cs = some true ↔ ∃ c ∈ cs, c.selects row = true := by
  induction cs with
  | nil => simp [truthAny]
  | cons c cs ih =>
    rw [truthAny, or3_eq_true_iff, ih]
    simp [selects]

/-- A conjunction selects what all its parts select. -/
@[simp] theorem selects_all {row : ρ} {cs : List (Condition ρ)} :
    (Condition.all cs).selects row = true ↔ ∀ c ∈ cs, c.selects row = true := by
  rw [← truthAll_eq_true_iff]
  simp [selects, truth]

/-- A disjunction selects what one of its parts selects. -/
@[simp] theorem selects_any {row : ρ} {cs : List (Condition ρ)} :
    (Condition.any cs).selects row = true ↔ ∃ c ∈ cs, c.selects row = true := by
  rw [← truthAny_eq_true_iff]
  simp [selects, truth]

/-- A comparison selects the rows whose cell is not null and stands in the relation to a parameter
that is not null either. -/
theorem selects_compare {row : ρ} {c : Column ρ} {op : Comparison} {p : Parameter} :
    (Condition.compare c op p).selects row = true ↔
      c.cell row ≠ .null ∧ c.affinity.apply p ≠ .null ∧
        op.holds (c.cell row) (c.affinity.apply p) = true := by
  simp only [selects, truth, compareCells, beq_iff_eq]
  split
  · rename_i h
    simp only [reduceCtorEq, false_iff, not_and]
    intro hcell hparam
    exact absurd (h.resolve_left hcell) hparam
  · rename_i h
    rw [not_or] at h
    simp [h.1, h.2]

/-- Equality selects the rows whose cell is the parameter, unless it is null. -/
theorem selects_eq {row : ρ} {c : Column ρ} {p : Parameter} :
    (Condition.compare c .eq p).selects row = true ↔
      c.cell row ≠ .null ∧ c.cell row = c.affinity.apply p := by
  rw [selects_compare]
  constructor
  · rintro ⟨hcell, -, heq⟩
    exact ⟨hcell, beq_iff_eq.mp heq⟩
  · rintro ⟨hcell, heq⟩
    exact ⟨hcell, heq ▸ hcell, beq_iff_eq.mpr heq⟩

/-- The rows from a parameter on are those whose cell is at least it, unless the parameter is null. -/
theorem selects_ge {row : ρ} {c : Column ρ} {p : Parameter} :
    (Condition.compare c .ge p).selects row = true ↔
      c.affinity.apply p ≠ .null ∧ (c.affinity.apply p).le (c.cell row) = true := by
  rw [selects_compare]
  constructor
  · rintro ⟨-, hparam, hle⟩
    exact ⟨hparam, hle⟩
  · rintro ⟨hparam, hle⟩
    exact ⟨Cell.ne_null_of_le hle hparam, hparam, hle⟩

/-- The rows up to a parameter are those whose cell is not null and at most it. -/
theorem selects_le {row : ρ} {c : Column ρ} {p : Parameter} :
    (Condition.compare c .le p).selects row = true ↔
      c.cell row ≠ .null ∧ (c.cell row).le (c.affinity.apply p) = true := by
  rw [selects_compare]
  constructor
  · rintro ⟨hcell, -, hle⟩
    exact ⟨hcell, hle⟩
  · rintro ⟨hcell, hle⟩
    exact ⟨hcell, Cell.ne_null_of_le hle hcell, hle⟩

/-- The rows before a parameter are those whose cell is not null and less than it. -/
theorem selects_lt {row : ρ} {c : Column ρ} {p : Parameter} :
    (Condition.compare c .lt p).selects row = true ↔
      c.cell row ≠ .null ∧ (c.cell row).lt (c.affinity.apply p) = true := by
  rw [selects_compare]
  constructor
  · rintro ⟨hcell, -, hlt⟩
    exact ⟨hcell, hlt⟩
  · rintro ⟨hcell, hlt⟩
    exact ⟨hcell, Cell.ne_null_of_le (Cell.lt_iff.mp hlt).1 hcell, hlt⟩

/-- A membership test selects the rows whose cell is not null and one of the parameters. -/
theorem selects_within {row : ρ} {c : Column ρ} {ps : List Parameter} :
    (Condition.within c ps).selects row = true ↔
      c.cell row ≠ .null ∧ c.cell row ∈ ps.map c.affinity.apply := by
  simp only [selects, truth, isOneOf, beq_iff_eq]
  split
  · rename_i h
    simp [h]
  · split
    · rename_i h
      simp [h]
    · rename_i h
      split
      · rename_i hmem
        simp [h, hmem]
      · rename_i hmem
        split <;> simp [hmem]

end Condition

/-! ### Two truth values -/

/-- The row satisfies a single predicate on the column. -/
def Column.meets {ρ : Type} (c : Column ρ) (row : ρ) : Op → Operand → Bool
  | .eq, .null => c.cell row == .null
  | .eq, v => c.cell row != .null && c.cell row == c.affinity.apply v.parameter
  | .ne, .null => c.cell row != .null
  | .ne, v =>
    c.cell row != .null && c.affinity.apply v.parameter != .null &&
      c.cell row != c.affinity.apply v.parameter
  | .ge, v =>
    c.affinity.apply v.parameter != .null && (c.affinity.apply v.parameter).le (c.cell row)
  | .le, v => c.cell row != .null && (c.cell row).le (c.affinity.apply v.parameter)
  | .lt, v => c.cell row != .null && (c.cell row).lt (c.affinity.apply v.parameter)
  | .contains, v =>
    (c.cell row).text?.any (Pattern.matchesText (Pattern.containing v.term))
  | .within, v =>
    match v.members with
    | .ok ps => c.cell row != .null && (ps.map c.affinity.apply).contains (c.cell row)
    | .error _ => false
  | .isNot, v => c.cell row != c.affinity.apply v.parameter
  | .other _, _ => false

namespace Node

variable {ρ : Type}

mutual

/-- The tree asks nothing: it is a group in which there is no predicate at any depth. -/
def isVacant : Node → Bool
  | .test .. => false
  | .all items => areVacant items
  | .any items => areVacant items
  | .foreign _ => false

/-- None of the trees asks anything. -/
def areVacant : List Node → Bool
  | [] => true
  | n :: ns => n.isVacant && areVacant ns

end

/-- Trees of which one asks something ask something. -/
theorem areVacant_of_mem {nodes : List Node} {n : Node} (hn : n ∈ nodes) (h : n.isVacant = false) :
    areVacant nodes = false := by
  induction nodes with
  | nil => cases hn
  | cons n' nodes ih =>
    rw [areVacant]
    rcases List.mem_cons.mp hn with rfl | hn
    · rw [h, Bool.false_and]
    · rw [ih hn, Bool.and_false]

mutual

/-- The row satisfies the tree.  Parts that ask nothing count for nothing. -/
def holds (columns : ColumnMap ρ) (row : ρ) : Node → Bool
  | .test field op value => (columns.lookup field).any fun c => c.meets row op value
  | .all items => holdAll columns row items
  | .any items => areVacant items || holdSome columns row items
  | .foreign _ => false

/-- The row satisfies all the trees. -/
def holdAll (columns : ColumnMap ρ) (row : ρ) : List Node → Bool
  | [] => true
  | n :: ns => n.holds columns row && holdAll columns row ns

/-- The row satisfies one of the trees that ask something. -/
def holdSome (columns : ColumnMap ρ) (row : ρ) : List Node → Bool
  | [] => false
  | n :: ns => (!n.isVacant && n.holds columns row) || holdSome columns row ns

end

/-- Satisfying a list of trees is satisfying each of them. -/
theorem holdAll_eq_true_iff {columns : ColumnMap ρ} {row : ρ} {ns : List Node} :
    holdAll columns row ns = true ↔ ∀ n ∈ ns, n.holds columns row = true := by
  induction ns with
  | nil => simp [holdAll]
  | cons n ns ih =>
    rw [holdAll, Bool.and_eq_true, ih]
    simp

/-- Satisfying one of a list of trees is satisfying one that asks something. -/
theorem holdSome_eq_true_iff {columns : ColumnMap ρ} {row : ρ} {ns : List Node} :
    holdSome columns row ns = true ↔ ∃ n ∈ ns, n.isVacant = false ∧ n.holds columns row = true := by
  induction ns with
  | nil => simp [holdSome]
  | cons n ns ih =>
    rw [holdSome, Bool.or_eq_true, Bool.and_eq_true, Bool.not_eq_true', ih]
    simp

/-! ### The condition of a tree -/

/-- The condition of a single predicate selects the rows that satisfy the predicate. -/
theorem selects_testCondition {c : Column ρ} {op : Op} {v : Operand} {cond : Condition ρ}
    (h : testCondition c op v = .ok cond) (row : ρ) :
    cond.selects row = true ↔ c.meets row op v = true := by
  cases op with
  | eq =>
    cases v <;> simp only [testCondition, Except.ok.injEq] at h <;> subst h
    case null => simp [Condition.selects, Condition.truth, Column.meets]
    all_goals
      rw [Condition.selects_eq]
      simp only [Column.meets, Bool.and_eq_true, bne_iff_ne, beq_iff_eq]
  | ne =>
    cases v <;> simp only [testCondition, Except.ok.injEq] at h <;> subst h
    case null => simp [Condition.selects, Condition.truth, Column.meets]
    all_goals
      rw [Condition.selects_compare]
      simp only [Column.meets, Comparison.holds, Bool.and_eq_true, bne_iff_ne, and_assoc]
  | ge =>
    rw [eq_compare_of_ordered h, Condition.selects_ge]
    simp only [Column.meets, Bool.and_eq_true, bne_iff_ne]
  | le =>
    rw [eq_compare_of_ordered h, Condition.selects_le]
    simp only [Column.meets, Bool.and_eq_true, bne_iff_ne]
  | lt =>
    rw [eq_compare_of_ordered h, Condition.selects_lt]
    simp only [Column.meets, Bool.and_eq_true, bne_iff_ne]
  | contains =>
    simp only [testCondition, Except.ok.injEq] at h
    subst h
    simp only [Condition.selects, Condition.truth, Column.meets]
    cases (c.cell row).text? <;> simp
  | within =>
    simp only [testCondition] at h
    cases hm : v.members with
    | error e => rw [hm] at h; cases h
    | ok ps =>
      rw [hm] at h
      cases h
      rw [Condition.selects_within]
      simp [Column.meets, hm]
  | isNot =>
    simp only [testCondition, Except.ok.injEq] at h
    subst h
    simp [Condition.selects, Condition.truth, Column.meets]
  | other symbol =>
    simp [testCondition] at h

/-- What the condition of a tree has to do with the tree: there is none exactly if the tree asks
nothing, and one that there is selects the rows that satisfy the tree. -/
structure Renders (columns : ColumnMap ρ) (n : Node) (o : Option (Condition ρ)) : Prop where
  none_iff : o = none ↔ n.isVacant = true
  selects_iff : ∀ row, (∀ c ∈ o, c.selects row = true) ↔ n.holds columns row = true

/-- What the conditions of several trees have to do with the trees. -/
structure RendersList (columns : ColumnMap ρ) (ns : List Node) (cs : List (Condition ρ)) : Prop where
  nil_iff : cs = [] ↔ areVacant ns = true
  all_iff : ∀ row, (∀ c ∈ cs, c.selects row = true) ↔ holdAll columns row ns = true
  some_iff : ∀ row, (∃ c ∈ cs, c.selects row = true) ↔ holdSome columns row ns = true

/-- The conditions of a list of trees are put together from those of its head and its tail. -/
theorem RendersList.cons {columns : ColumnMap ρ} {n : Node} {ns : List Node}
    {o : Option (Condition ρ)} {cs : List (Condition ρ)} (hn : Renders columns n o)
    (hns : RendersList columns ns cs) : RendersList columns (n :: ns) (o.toList ++ cs) := by
  refine ⟨?_, fun row => ?_, fun row => ?_⟩
  · rw [areVacant, Bool.and_eq_true, ← hn.none_iff, ← hns.nil_iff]
    cases o <;> simp
  · rw [holdAll, Bool.and_eq_true, ← hn.selects_iff row, ← hns.all_iff row]
    cases o <;> simp
  · rw [holdSome, Bool.or_eq_true, Bool.and_eq_true, Bool.not_eq_true', ← hns.some_iff row,
      ← hn.selects_iff row, ← Bool.not_eq_true, ← hn.none_iff]
    cases o <;> simp

/-- What the conditions of the items of a conjunction have to do with the items, the condition of the
conjunction has to do with the conjunction. -/
theorem RendersList.all {columns : ColumnMap ρ} {items : List Node} {cs : List (Condition ρ)}
    (h : RendersList columns items cs) : Renders columns (.all items) (group .all cs) := by
  refine ⟨?_, fun row => ?_⟩
  · rw [isVacant, ← h.nil_iff]
    cases cs <;> simp [group]
  · rw [holds, ← h.all_iff row]
    cases cs <;> simp [group]

/-- What the conditions of the items of a disjunction have to do with the items, the condition of the
disjunction has to do with the disjunction. -/
theorem RendersList.any {columns : ColumnMap ρ} {items : List Node} {cs : List (Condition ρ)}
    (h : RendersList columns items cs) : Renders columns (.any items) (group .any cs) := by
  refine ⟨?_, fun row => ?_⟩
  · rw [isVacant, ← h.nil_iff]
    cases cs <;> simp [group]
  · rw [holds, Bool.or_eq_true, ← h.nil_iff, ← h.some_iff row]
    cases cs <;> simp [group]

mutual

/-- Induction over the tree: a leaf is a single predicate, and a group is put together from its
items. -/
theorem renders_of_condition {columns : ColumnMap ρ} :
    ∀ {n : Node} {o : Option (Condition ρ)}, condition columns n = .ok o → Renders columns n o
  | .test field op v, o, h => by
    obtain ⟨c, cond, hc, hcond, rfl⟩ := condition_test_eq_ok_iff.mp h
    refine ⟨by simp [isVacant], fun row => ?_⟩
    rw [holds, hc]
    simpa using selects_testCondition hcond row
  | .all items, o, h => by
    obtain ⟨cs, hcs, rfl⟩ := condition_all_eq_ok_iff.mp h
    exact RendersList.all (renders_of_conditions hcs)
  | .any items, o, h => by
    obtain ⟨cs, hcs, rfl⟩ := condition_any_eq_ok_iff.mp h
    exact RendersList.any (renders_of_conditions hcs)
  | .foreign kind, o, h => by
    cases h

/-- Induction over the list of trees. -/
theorem renders_of_conditions {columns : ColumnMap ρ} :
    ∀ {ns : List Node} {cs : List (Condition ρ)}, conditions columns ns = .ok cs →
      RendersList columns ns cs
  | [], cs, h => by
    cases h
    exact ⟨by simp [areVacant], fun row => by simp [holdAll], fun row => by simp [holdSome]⟩
  | n :: ns, cs, h => by
    obtain ⟨o, rest, ho, hrest, rfl⟩ := conditions_cons_eq_ok_iff.mp h
    exact RendersList.cons (renders_of_condition ho) (renders_of_conditions hrest)

end

end Node

end Backoffice
