import Mathlib
import Backoffice.Proofs.Outcome
import Backoffice.Table.Condition

/-!
# The conditions of predicate trees

How the condition of a tree is put together from those of its parts, and what a statement with it fails
on.  A tree has a condition as soon as its predicates are on known columns (`Node.IsRendered`); whether a
statement can then carry it out depends on its values alone (`Node.defect?`).
-/

namespace Backoffice

/-- The integers that fit 64 bits. -/
theorem fitsWord_iff {n : Int} : fitsWord n = true ↔ -2 ^ 63 ≤ n ∧ n < 2 ^ 63 := by
  unfold fitsWord wordLimit
  rw [Bool.and_eq_true, decide_eq_true_eq, decide_eq_true_eq]

namespace Parameter

/-- An integer can be a parameter if it fits 64 bits. -/
theorem defect?_int_eq_none_iff {n : Int} : (int n).defect? = none ↔ fitsWord n = true := by
  simp [defect?]

/-- An integer that cannot be a parameter overflows. -/
theorem eq_overflow_of_defect?_int {n : Int} {e : Failure} (h : (int n).defect? = some e) :
    e = .overflow .parameter := by
  by_cases hfits : fitsWord n = true
  · rw [defect?_int_eq_none_iff.mpr hfits] at h
    cases h
  · simp only [defect?, if_neg hfits] at h
    exact (Option.some.inj h).symm

end Parameter

namespace Node

variable {ρ : Type} {columns : ColumnMap ρ}

/-! ### Putting conditions together -/

/-- A field has a column if the table knows it. -/
theorem column_eq_ok_iff {field : String} {c : Column ρ} :
    column columns field = .ok c ↔ columns.lookup field = some c := by
  unfold column
  cases columns.lookup field <;> simp

/-- The condition of a single predicate is that of its column. -/
theorem condition_test_eq_ok_iff {field : String} {op : Op} {v : Operand}
    {o : Option (Condition ρ)} : condition columns (.test field op v) = .ok o ↔
      ∃ c cond, columns.lookup field = some c ∧ testCondition c op v = .ok cond ∧ o = some cond := by
  unfold condition
  simp only [bind_eq_ok_iff, pure_eq_ok_iff, column_eq_ok_iff]
  constructor
  · rintro ⟨c, hc, cond, hcond, rfl⟩
    exact ⟨c, cond, hc, hcond, rfl⟩
  · rintro ⟨c, cond, hc, hcond, rfl⟩
    exact ⟨c, hc, cond, hcond, rfl⟩

/-- The condition of a group, if its items have conditions. -/
def group (make : List (Condition ρ) → Condition ρ) : List (Condition ρ) → Option (Condition ρ)
  | [] => none
  | c :: cs => some (make (c :: cs))

/-- The condition of a conjunction is made from those of its items. -/
theorem condition_all_eq_ok_iff {items : List Node} {o : Option (Condition ρ)} :
    condition columns (.all items) = .ok o ↔
      ∃ cs, conditions columns items = .ok cs ∧ o = group .all cs := by
  unfold condition
  rw [bind_eq_ok_iff]
  refine exists_congr fun cs => and_congr_right fun _ => ?_
  cases cs <;> rw [pure_eq_ok_iff, eq_comm] <;> rfl

/-- The condition of a disjunction is made from those of its items. -/
theorem condition_any_eq_ok_iff {items : List Node} {o : Option (Condition ρ)} :
    condition columns (.any items) = .ok o ↔
      ∃ cs, conditions columns items = .ok cs ∧ o = group .any cs := by
  unfold condition
  rw [bind_eq_ok_iff]
  refine exists_congr fun cs => and_congr_right fun _ => ?_
  cases cs <;> rw [pure_eq_ok_iff, eq_comm] <;> rfl

/-- The conditions of several trees are those of the first and of the others. -/
theorem conditions_cons_eq_ok_iff {n : Node} {ns : List Node} {cs : List (Condition ρ)} :
    conditions columns (n :: ns) = .ok cs ↔ ∃ o rest, condition columns n = .ok o ∧
      conditions columns ns = .ok rest ∧ cs = o.toList ++ rest := by
  rw [conditions]
  simp only [bind_eq_ok_iff, pure_eq_ok_iff]
  constructor
  · rintro ⟨o, ho, rest, hrest, rfl⟩
    exact ⟨o, rest, ho, hrest, rfl⟩
  · rintro ⟨o, rest, ho, hrest, rfl⟩
    exact ⟨o, ho, rest, hrest, rfl⟩

/-! ### Trees that have conditions -/

/-- The tree has a condition, or asks nothing. -/
def IsRendered (columns : ColumnMap ρ) (n : Node) : Prop :=
  ∃ o, condition columns n = .ok o

/-- Trees have conditions together if each of them has one. -/
theorem exists_conditions_iff {ns : List Node} :
    (∃ cs, conditions columns ns = .ok cs) ↔ ∀ n ∈ ns, n.IsRendered columns := by
  induction ns with
  | nil => simp [conditions]
  | cons n ns ih =>
    rw [List.forall_mem_cons, ← ih]
    constructor
    · rintro ⟨cs, hcs⟩
      obtain ⟨o, rest, ho, hrest, -⟩ := conditions_cons_eq_ok_iff.mp hcs
      exact ⟨⟨o, ho⟩, rest, hrest⟩
    · rintro ⟨⟨o, ho⟩, rest, hrest⟩
      exact ⟨_, conditions_cons_eq_ok_iff.mpr ⟨o, rest, ho, hrest, rfl⟩⟩

/-- A conjunction has a condition if its items have. -/
theorem isRendered_all {items : List Node} (h : ∀ n ∈ items, n.IsRendered columns) :
    (Node.all items).IsRendered columns := by
  obtain ⟨cs, hcs⟩ := exists_conditions_iff.mpr h
  exact ⟨_, condition_all_eq_ok_iff.mpr ⟨cs, hcs, rfl⟩⟩

/-- A disjunction has a condition if its items have, and only then. -/
theorem isRendered_any_iff {items : List Node} :
    (Node.any items).IsRendered columns ↔ ∀ n ∈ items, n.IsRendered columns := by
  rw [← exists_conditions_iff]
  constructor
  · rintro ⟨o, ho⟩
    obtain ⟨cs, hcs, -⟩ := condition_any_eq_ok_iff.mp ho
    exact ⟨cs, hcs⟩
  · rintro ⟨cs, hcs⟩
    exact ⟨_, condition_any_eq_ok_iff.mpr ⟨cs, hcs, rfl⟩⟩

/-- A single predicate on a known column has a condition if its operator takes the value. -/
theorem isRendered_test {field : String} {op : Op} {v : Operand} {c : Column ρ} {cond : Condition ρ}
    (hc : columns.lookup field = some c) (hcond : testCondition c op v = .ok cond) :
    (Node.test field op v).IsRendered columns :=
  ⟨some cond, condition_test_eq_ok_iff.mpr ⟨c, cond, hc, hcond, rfl⟩⟩

/-! ### What statements fail on -/

/-- Why a statement with a single predicate fails, if it does. -/
def testDefect? : Op → Operand → Option Failure
  | .eq, v | .ne, v | .ge, v | .le, v | .lt, v | .isNot, v => v.parameter.defect?
  | .within, v =>
    match v.members with
    | .ok ps => ps.findSome? (·.defect?)
    | .error _ => none
  | .contains, _ | .other _, _ => none

mutual

/-- Why a statement with the tree fails, if it does: what is wrong with the first bad value. -/
def defect? : Node → Option Failure
  | .test _ op v => testDefect? op v
  | .all items => defectIn? items
  | .any items => defectIn? items
  | .foreign _ => none

/-- Why a statement with the trees fails, if it does. -/
def defectIn? : List Node → Option Failure
  | [] => none
  | n :: ns => (defect? n).or (defectIn? ns)

end

/-- The members of a list of integers are the integers. -/
theorem members_ints (ns : List Int) : (Operand.list (ns.map .int)).members = .ok (ns.map .int) := by
  have hagree : Operand.agree (ns.map .int) = true := by
    cases ns <;> rfl
  have hparameters : (ns.map Operand.int).map Operand.parameter = ns.map Parameter.int := by
    rw [List.map_map]
    rfl
  simp only [Operand.members, hagree, if_true, hparameters]

/-- Integers make a membership test on any column. -/
theorem testCondition_within_ints (c : Column ρ) (ns : List Int) :
    testCondition c .within (.list (ns.map .int)) = .ok (.within c (ns.map .int)) := by
  simp only [testCondition, members_ints, ok_bind]
  rfl

/-- A membership test among integers fails on the first that does not fit 64 bits. -/
theorem testDefect?_within_ints (ns : List Int) : testDefect? .within (.list (ns.map .int)) =
    ns.findSome? fun n => (Parameter.int n).defect? := by
  simp only [testDefect?, members_ints, List.findSome?_map]
  rfl

/-- A comparison by order, if there is one, compares with the parameter of the value. -/
theorem eq_compare_of_ordered {c : Column ρ} {op : Comparison} {v : Operand} {cond : Condition ρ}
    (h : ordered c op v = .ok cond) : cond = .compare c op v.parameter := by
  unfold ordered at h
  split at h
  · cases h
  · cases h
  · cases h
    rfl

/-- A comparison by order fails on its value. -/
theorem defect?_of_ordered {c : Column ρ} {op : Comparison} {v : Operand} {cond : Condition ρ}
    (h : ordered c op v = .ok cond) : cond.defect? = v.parameter.defect? := by
  rw [eq_compare_of_ordered h]
  rfl

/-- The condition of a single predicate fails on what the predicate fails on. -/
theorem defect?_of_testCondition {c : Column ρ} {op : Op} {v : Operand} {cond : Condition ρ}
    (h : testCondition c op v = .ok cond) : cond.defect? = testDefect? op v := by
  cases op with
  | eq => cases v <;> cases h <;> rfl
  | ne => cases v <;> cases h <;> rfl
  | ge => exact defect?_of_ordered h
  | le => exact defect?_of_ordered h
  | lt => exact defect?_of_ordered h
  | contains =>
    cases h
    rfl
  | within =>
    obtain ⟨ps, hps, hcond⟩ := bind_eq_ok_iff.mp h
    cases hcond
    simp only [testDefect?, hps, Condition.defect?]
  | isNot =>
    cases h
    rfl
  | other symbol => cases h

/-- The conditions of two lists of trees fail on what the first list fails on, or else the second. -/
theorem defectIn?_append {cs ds : List (Condition ρ)} : Condition.defectIn? (cs ++ ds) =
    (Condition.defectIn? cs).or (Condition.defectIn? ds) := by
  induction cs with
  | nil => rfl
  | cons c cs ih =>
    rw [List.cons_append, Condition.defectIn?, Condition.defectIn?, ih, Option.or_assoc]

mutual

/-- A statement with the condition of a tree fails on what the tree fails on.  Induction over the tree:
a group has the defects of its items. -/
theorem defect?_of_condition :
    ∀ {n : Node} {o : Option (Condition ρ)}, condition columns n = .ok o →
      o.bind Condition.defect? = n.defect?
  | .test field op v, o, h => by
    obtain ⟨c, cond, -, hcond, rfl⟩ := condition_test_eq_ok_iff.mp h
    exact defect?_of_testCondition hcond
  | .all items, o, h => by
    obtain ⟨cs, hcs, rfl⟩ := condition_all_eq_ok_iff.mp h
    have hitems := defectIn?_of_conditions hcs
    cases cs <;> exact hitems
  | .any items, o, h => by
    obtain ⟨cs, hcs, rfl⟩ := condition_any_eq_ok_iff.mp h
    have hitems := defectIn?_of_conditions hcs
    cases cs <;> exact hitems
  | .foreign kind, o, h => by
    cases h

/-- Induction over the list of trees. -/
theorem defectIn?_of_conditions :
    ∀ {ns : List Node} {cs : List (Condition ρ)}, conditions columns ns = .ok cs →
      Condition.defectIn? cs = defectIn? ns
  | [], cs, h => by
    cases h
    rfl
  | n :: ns, cs, h => by
    obtain ⟨o, rest, ho, hrest, rfl⟩ := conditions_cons_eq_ok_iff.mp h
    have hfirst := defect?_of_condition ho
    have hothers := defectIn?_of_conditions hrest
    have hhead : Condition.defectIn? o.toList = o.bind Condition.defect? := by
      cases o with
      | none => rfl
      | some c => exact Option.or_none
    rw [defectIn?_append, hhead, hfirst, hothers, defectIn?]

end

/-- Trees can be carried out together if each of them can. -/
theorem defectIn?_eq_none_iff {ns : List Node} :
    defectIn? ns = none ↔ ∀ n ∈ ns, n.defect? = none := by
  induction ns with
  | nil => simp [defectIn?]
  | cons n ns ih =>
    rw [defectIn?, Option.or_eq_none_iff, ih, List.forall_mem_cons]

/-- If all defects of single trees are of one kind, then trees together fail with it. -/
theorem defectIn?_eq_some {ns : List Node} {e : Failure} (hkind : ∀ n ∈ ns, ∀ e', n.defect? = some e' → e' = e)
    (h : defectIn? ns ≠ none) : defectIn? ns = some e := by
  induction ns with
  | nil => exact absurd rfl h
  | cons n ns ih =>
    rw [List.forall_mem_cons] at hkind
    unfold defectIn? at h ⊢
    cases hn : n.defect? with
    | some e' =>
      rw [hkind.1 e' hn]
      rfl
    | none =>
      rw [hn] at h
      exact ih hkind.2 h

end Node

end Backoffice
