import Mathlib
import Backoffice.Proofs.Calendar.Spans
import Backoffice.Proofs.Table.Columns
import Backoffice.Proofs.Table.Rendering
import Backoffice.Query.Predicate

/-!
# What filters ask of a row

The predicate of each kind of filter, read on a table that has a column for it: an equality filter asks
for the number, a date range filter for a time that it covers, and a search for one text that contains
the term.  Such predicates can always be carried out.
-/

namespace Backoffice

/-- The tree that asks for the times from one moment to another, both included. -/
def Node.range (field : String) (a b : Moment) : Node :=
  .all [.test field .ge (.moment a), .test field .le (.moment b)]

namespace DateRangeFilter

/-- The filter covers the time: in range mode the time is neither before the start nor after the end,
otherwise it falls on the day after the start. -/
def Covers (f : DateRangeFilter) (w : WallTime) : Prop :=
  if f.isRange then
    (∃ m ∈ f.startDate, m.wall.micros ≤ w.micros) ∧ ∃ m ∈ f.endDate, w.micros ≤ m.wall.micros
  else ∃ m ∈ f.startDate, w.micros / dayMicros = m.wall.micros / dayMicros + 1

instance (f : DateRangeFilter) (w : WallTime) : Decidable (f.Covers w) :=
  inferInstanceAs (Decidable (if f.isRange then
    (∃ m ∈ f.startDate, m.wall.micros ≤ w.micros) ∧ ∃ m ∈ f.endDate, w.micros ≤ m.wall.micros
    else ∃ m ∈ f.startDate, w.micros / dayMicros = m.wall.micros / dayMicros + 1))

/-- The bounds of the filter have no offset from UTC. -/
def IsOffsetFree (f : DateRangeFilter) : Prop :=
  (∀ m ∈ f.startDate, m.offset = none) ∧ ∀ m ∈ f.endDate, m.offset = none

instance (f : DateRangeFilter) : Decidable f.IsOffsetFree :=
  inferInstanceAs (Decidable
    ((∀ m ∈ f.startDate, m.offset = none) ∧ ∀ m ∈ f.endDate, m.offset = none))

/-- Without offsets the start is taken as it is. -/
theorem IsOffsetFree.lower_eq {f : DateRangeFilter} (h : f.IsOffsetFree) : f.lower = f.startDate := by
  unfold lower
  cases hs : f.startDate with
  | none => rfl
  | some m =>
    have hm := h.1 m hs
    cases he : f.endDate with
    | none => cases m; simp_all [Moment.withOffsetOf]
    | some n =>
      have hn := h.2 n he
      cases m
      simp_all [Moment.withOffsetOf]

/-- Without offsets the end is taken as it is. -/
theorem IsOffsetFree.upper_eq {f : DateRangeFilter} (h : f.IsOffsetFree) : f.upper = f.endDate := by
  unfold upper
  cases he : f.endDate with
  | none => rfl
  | some n =>
    have hn := h.2 n he
    cases hs : f.startDate with
    | none => cases n; simp_all [Moment.withOffsetOf]
    | some m =>
      have hm := h.1 m hs
      cases n
      simp_all [Moment.withOffsetOf]

/-- A range that selects something has both its bounds. -/
theorem bounds_of_isApplicable {f : DateRangeFilter} (h : f.isApplicable = true)
    (hrange : f.isRange = true) : ∃ a b, f.lower = some a ∧ f.upper = some b := by
  unfold isApplicable at h
  rw [if_pos hrange, Bool.and_eq_true] at h
  cases ha : f.lower <;> cases hb : f.upper <;> simp_all

/-- The predicate of a range names its bounds. -/
theorem predicate_of_range {f : DateRangeFilter} {a b : Moment} (hrange : f.isRange = true)
    (ha : f.lower = some a) (hb : f.upper = some b) : f.predicate = .ok (.range f.fieldName a b) := by
  unfold predicate
  rw [if_pos hrange, ha, hb]
  rfl

/-- The predicate of a stretch of time names the moments at its ends. -/
theorem bounds_of_between {field : String} {x y : Option Moment} {node : Node}
    (h : between field x y = .ok node) :
    ∃ first last, x = some first ∧ y = some last ∧
      node = .all [.test field .ge (.moment first), .test field .lt (.moment last)] := by
  cases x with
  | none => cases h
  | some first =>
    cases y with
    | none => cases h
    | some last =>
      cases h
      exact ⟨first, last, rfl, rfl, rfl⟩

/-- A filter without range mode that selects something selects the day after its start. -/
theorem bounds_of_predicate {f : DateRangeFilter} {node : Node} (happlicable : f.isApplicable = true)
    (hrange : ¬ f.isRange = true) (h : f.predicate = .ok node) :
    ∃ start first last, f.startDate = some start ∧ start.startOfDay.addDays? 1 = some first ∧
      start.startOfDay.addDays? 2 = some last ∧
      node = .all [.test f.fieldName .ge (.moment first), .test f.fieldName .lt (.moment last)] := by
  unfold isApplicable at happlicable
  rw [if_neg hrange, Bool.and_eq_true] at happlicable
  obtain ⟨start, hstart⟩ := Option.isSome_iff_exists.mp happlicable.2
  unfold predicate at h
  rw [if_neg hrange, hstart] at h
  obtain ⟨first, last, hfirst, hlast, hnode⟩ := bounds_of_between h
  exact ⟨start, first, last, hstart, hfirst, hlast, hnode⟩

end DateRangeFilter

namespace Node

variable {ρ : Type}

/-- The tree has a condition that a statement can have, or asks nothing. -/
def IsSafe (columns : ColumnMap ρ) (n : Node) : Prop :=
  ∃ o, condition columns n = .ok o ∧ ∀ c ∈ o, c.defect? = none

/-- A tree is safe if it has a condition and no bad value. -/
theorem isSafe_iff {columns : ColumnMap ρ} {n : Node} :
    n.IsSafe columns ↔ n.IsRendered columns ∧ n.defect? = none := by
  unfold IsSafe IsRendered
  rw [← exists_and_right]
  refine exists_congr fun o => and_congr_right fun ho => ?_
  rw [← defect?_of_condition ho, Option.bind_eq_none_iff]
  rfl

/-- Safe trees have conditions that a statement can have. -/
theorem exists_conditions {columns : ColumnMap ρ} {ns : List Node}
    (h : ∀ n ∈ ns, n.IsSafe columns) :
    ∃ cs, conditions columns ns = .ok cs ∧ Condition.defectIn? cs = none := by
  obtain ⟨cs, hcs⟩ := exists_conditions_iff.mpr fun n hn => (isSafe_iff.mp (h n hn)).1
  refine ⟨cs, hcs, ?_⟩
  rw [defectIn?_of_conditions hcs, defectIn?_eq_none_iff]
  exact fun n hn => (isSafe_iff.mp (h n hn)).2

/-- A conjunction of safe trees is safe. -/
theorem isSafe_all {columns : ColumnMap ρ} {ns : List Node} (h : ∀ n ∈ ns, n.IsSafe columns) :
    (Node.all ns).IsSafe columns := by
  simp only [isSafe_iff] at h ⊢
  exact ⟨isRendered_all fun n hn => (h n hn).1, defectIn?_eq_none_iff.mpr fun n hn => (h n hn).2⟩

/-- A disjunction of safe trees is safe. -/
theorem isSafe_any {columns : ColumnMap ρ} {ns : List Node} (h : ∀ n ∈ ns, n.IsSafe columns) :
    (Node.any ns).IsSafe columns := by
  simp only [isSafe_iff] at h ⊢
  exact ⟨isRendered_any_iff.mpr fun n hn => (h n hn).1, defectIn?_eq_none_iff.mpr fun n hn => (h n hn).2⟩

/-- A single predicate on a known column is safe if its condition is. -/
theorem isSafe_test {columns : ColumnMap ρ} {field : String} {op : Op} {v : Operand} {c : Column ρ}
    {cond : Condition ρ} (hc : columns.lookup field = some c) (ht : testCondition c op v = .ok cond)
    (hdefect : cond.defect? = none) : (Node.test field op v).IsSafe columns := by
  rw [isSafe_iff]
  refine ⟨isRendered_test hc ht, ?_⟩
  rw [defect?, ← defect?_of_testCondition ht, hdefect]

/-- A single predicate on a known column holds if the column meets it. -/
theorem holds_test {columns : ColumnMap ρ} {field : String} {op : Op} {v : Operand} {c : Column ρ}
    (hc : columns.lookup field = some c) (row : ρ) :
    (Node.test field op v).holds columns row = c.meets row op v := by
  rw [holds, hc]
  rfl

end Node

section Filters

variable {ρ : Type} {columns : ColumnMap ρ}

/-- An equality filter asks for its number. -/
theorem EqualityFilter.holds_predicate {f : EqualityFilter} {read : ρ → Option Int}
    (hc : columns.lookup f.fieldName = some (.int read)) (hset : f.isSet = true) (row : ρ) :
    f.predicate.holds columns row = true ↔ read row = f.matchValue := by
  unfold isSet at hset
  split at hset
  · rename_i n hn
    unfold predicate
    rw [Node.holds_test hc, hn]
    exact Column.meets_int_eq
  · cases hset

/-- An equality filter on any column has a condition. -/
theorem EqualityFilter.isRendered_predicate {f : EqualityFilter} {c : Column ρ}
    (hc : columns.lookup f.fieldName = some c) : f.predicate.IsRendered columns := by
  unfold predicate
  cases f.matchValue with
  | none => exact Node.isRendered_test hc rfl
  | some n => exact Node.isRendered_test hc rfl

/-- An equality filter fails on a number that does not fit 64 bits. -/
theorem EqualityFilter.defect?_predicate (f : EqualityFilter) :
    f.predicate.defect? = f.matchValue.bind fun n => (Parameter.int n).defect? := by
  unfold predicate
  cases f.matchValue <;> rfl

/-- An equality filter with a number of 64 bits can be carried out. -/
theorem EqualityFilter.isSafe_predicate {f : EqualityFilter} {c : Column ρ}
    (hc : columns.lookup f.fieldName = some c)
    (hfits : ∀ n ∈ f.matchValue, fitsWord n = true) : f.predicate.IsSafe columns := by
  rw [Node.isSafe_iff, defect?_predicate, Option.bind_eq_none_iff]
  refine ⟨isRendered_predicate hc, fun n hn => ?_⟩
  exact if_pos (hfits n hn)

/-- The predicate of a range asks for a time between those that clocks show at its bounds. -/
theorem Node.holds_range {field : String} {a b : Moment} {read : ρ → Option WallTime}
    (hc : columns.lookup field = some (.time read)) (row : ρ) :
    (range field a b).holds columns row = true ↔
      ∃ w ∈ read row, a.wall.micros ≤ w.micros ∧ w.micros ≤ b.wall.micros := by
  rw [range, holds, holdAll_eq_true_iff]
  simp only [List.forall_mem_cons, List.not_mem_nil, IsEmpty.forall_iff, implies_true, and_true,
    holds_test hc, Column.meets_time_ge, Column.meets_time_le]
  constructor
  · rintro ⟨⟨w, hw, hge⟩, w', hw', hle⟩
    rw [hw] at hw'
    cases hw'
    exact ⟨w, hw, hge, hle⟩
  · rintro ⟨w, hw, hge, hle⟩
    exact ⟨⟨w, hw, hge⟩, w, hw, hle⟩

/-- A date range filter asks for a time that it covers. -/
theorem DateRangeFilter.holds_predicate {f : DateRangeFilter} {node : Node}
    {read : ρ → Option WallTime} (hc : columns.lookup f.fieldName = some (.time read))
    (hfree : f.IsOffsetFree) (happlicable : f.isApplicable = true) (hnode : f.predicate = .ok node)
    (row : ρ) : node.holds columns row = true ↔ ∃ w ∈ read row, f.Covers w := by
  by_cases hrange : f.isRange = true
  · obtain ⟨a, b, ha, hb⟩ := bounds_of_isApplicable happlicable hrange
    rw [predicate_of_range hrange ha hb] at hnode
    cases hnode
    rw [hfree.lower_eq] at ha
    rw [hfree.upper_eq] at hb
    rw [Node.holds_range hc]
    simp only [Covers, hrange, if_true, ha, hb, Option.mem_some_iff, exists_eq_left']
  · obtain ⟨start, first, last, hstart, hfirst, hlast, rfl⟩ :=
      bounds_of_predicate happlicable hrange hnode
    rw [Node.holds, Node.holdAll_eq_true_iff]
    simp only [List.forall_mem_cons, List.not_mem_nil, IsEmpty.forall_iff, implies_true, and_true,
      Node.holds_test hc, Column.meets_time_ge, Column.meets_time_lt]
    simp only [Covers, hrange, hstart, Option.mem_some_iff, exists_eq_left',
      WallTime.micros_of_startOfDay_addDays? hfirst,
      WallTime.micros_of_startOfDay_addDays? hlast]
    have hday : ∀ w : WallTime, w.micros / dayMicros = start.wall.micros / dayMicros + 1 ↔
        (start.wall.micros / dayMicros + 1) * dayMicros ≤ w.micros ∧
          w.micros < (start.wall.micros / dayMicros + 2) * dayMicros := by
      intro w
      unfold dayMicros
      omega
    constructor
    · rintro ⟨⟨w, hw, hge⟩, w', hw', hlt⟩
      rw [hw] at hw'
      cases hw'
      exact ⟨w, hw, (hday w).mpr ⟨hge, hlt⟩⟩
    · rintro ⟨w, hw, hin⟩
      obtain ⟨hge, hlt⟩ := (hday w).mp hin
      exact ⟨⟨w, hw, hge⟩, w, hw, hlt⟩

/-- A date range filter on any column can be carried out. -/
theorem DateRangeFilter.isSafe_predicate {f : DateRangeFilter} {node : Node} {c : Column ρ}
    (hc : columns.lookup f.fieldName = some c) (happlicable : f.isApplicable = true)
    (hnode : f.predicate = .ok node) : node.IsSafe columns := by
  by_cases hrange : f.isRange = true
  · obtain ⟨a, b, ha, hb⟩ := bounds_of_isApplicable happlicable hrange
    rw [predicate_of_range hrange ha hb] at hnode
    cases hnode
    refine Node.isSafe_all ?_
    simp only [List.forall_mem_cons, List.not_mem_nil, IsEmpty.forall_iff, implies_true, and_true]
    exact ⟨Node.isSafe_test hc rfl rfl, Node.isSafe_test hc rfl rfl⟩
  · obtain ⟨start, first, last, -, -, -, rfl⟩ := bounds_of_predicate happlicable hrange hnode
    refine Node.isSafe_all ?_
    simp only [List.forall_mem_cons, List.not_mem_nil, IsEmpty.forall_iff, implies_true, and_true]
    exact ⟨Node.isSafe_test hc rfl rfl, Node.isSafe_test hc rfl rfl⟩

/-- A search in several fields asks for one of them to hold. -/
theorem Node.holds_containsAny {fields : List String} {term : String} {node : Node}
    (h : containsAny fields term = some node) (row : ρ) :
    node.holds columns row = true ↔
      ∃ f ∈ fields, (Node.test f .contains (.text term)).holds columns row = true := by
  unfold containsAny at h
  split at h
  · cases h
  · rename_i hne
    cases h
    have hvacant : areVacant (fields.map fun f => Node.test f .contains (.text term)) = false := by
      cases fields with
      | nil => simp at hne
      | cons f fields => rfl
    rw [holds, hvacant, Bool.false_or, holdSome_eq_true_iff]
    simp [isVacant]

/-- A search in known fields can be carried out. -/
theorem Node.isSafe_containsAny {fields : List String} {term : String} {node : Node}
    (h : containsAny fields term = some node)
    (hfields : ∀ f ∈ fields, ∃ c, columns.lookup f = some c) : node.IsSafe columns := by
  unfold containsAny at h
  split at h
  · cases h
  · cases h
    refine isSafe_any fun n hn => ?_
    obtain ⟨f, hf, rfl⟩ := List.mem_map.mp hn
    obtain ⟨c, hc⟩ := hfields f hf
    exact isSafe_test hc rfl rfl

end Filters

end Backoffice
