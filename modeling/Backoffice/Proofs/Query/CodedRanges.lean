import Mathlib
import Backoffice.Proofs.Calendar.RoundTrip
import Backoffice.Proofs.Query.CodedFilters

/-!
# Coded date ranges read back

Date range filters are written as objects with their dates as ISO texts, and read back as they were
written: `decodeDateRanges_coded`.  Those that select nothing are left out.  Which ones these are is said by
the instants of their dates, where a date without an offset takes the offset of the other one.
-/

namespace Backoffice

/-- The microseconds from the beginning of the year 1 in UTC.  A moment without an offset takes the one of
the moment beside it, if that has one. -/
def Moment.instantBeside (m other : Moment) : ℤ :=
  m.wall.micros - (m.offset.or other.offset).elim 0 Offset.micros

/-- Two moments, each with the offset of the other if it has none, are the same if their instants are. -/
theorem Moment.sameInstant_withOffsetOf (a b : Moment) :
    (a.withOffsetOf (some b)).sameInstant (b.withOffsetOf (some a)) =
      decide (a.instantBeside b = b.instantBeside a) := by
  obtain ⟨s, o⟩ := a
  obtain ⟨t, p⟩ := b
  rw [Bool.eq_iff_iff, decide_eq_true_iff]
  cases o <;> cases p <;> simp [withOffsetOf, sameInstant, instant, instantBeside]

namespace DateRangeFilter

/-- The value of the field of a date, if there is such a field: a text, and without a date null or nothing. -/
def dateValue? (nulls : Bool) : Option Moment → Option Json
  | some m => some (.str m.text)
  | none => if nulls then some .null else none

/-- The fields that write a date range filter.  Those of absent dates are null or left out. -/
def toFields (nulls : Bool) (f : DateRangeFilter) : List (String × Json) :=
  [("fieldName", .str f.fieldName)] ++
    ((dateValue? nulls f.startDate).map fun v => ("startDate", v)).toList ++
    ((dateValue? nulls f.endDate).map fun v => ("endDate", v)).toList ++
    [("isRange", .bool f.isRange), ("active", .bool f.active)]

/-- The filter is active and selects something: a range from one instant to another, or the day after a
start. -/
def Selects (f : DateRangeFilter) : Prop :=
  f.active = true ∧
    (f.isRange = true ∧ (∃ a b, f.startDate = some a ∧ f.endDate = some b ∧
        a.instantBeside b ≠ b.instantBeside a) ∨
      f.isRange = false ∧ ∃ a, f.startDate = some a)

/-- A date is read back from its field. -/
theorem default_dateValue? (name : String) (nulls : Bool) (date : Option Moment) :
    (Form.Slot.mk name (dateValue? nulls date)).default none (Form.orNull Form.asMoment) = .ok date := by
  cases date with
  | none => cases nulls <;> rfl
  | some m =>
    have hread : Form.asMoment (.str m.text) = .ok m := by
      unfold Form.asMoment
      simp only [Moment.ofText?_text]
    unfold dateValue? Form.Slot.default Form.Slot.required Form.orNull
    simp only [hread]
    rfl

/-- A date range filter is read back from its fields. -/
theorem read_toFields (nulls : Bool) (f : DateRangeFilter) : read (f.toFields nulls) = .ok f := by
  obtain ⟨name, start, stop, isRange, active⟩ := f
  have hstart : Form.find ["startDate", "start_date", "StartDate"]
      (toFields nulls ⟨name, start, stop, isRange, active⟩) = ⟨"startDate", dateValue? nulls start⟩ := by
    cases nulls <;> cases start <;> cases stop <;> rfl
  have hstop : Form.find ["endDate", "end_date", "EndDate"]
      (toFields nulls ⟨name, start, stop, isRange, active⟩) = ⟨"endDate", dateValue? nulls stop⟩ := by
    cases nulls <;> cases start <;> cases stop <;> rfl
  have hrange : Form.find ["isRange", "is_range", "IsRange"]
      (toFields nulls ⟨name, start, stop, isRange, active⟩) = ⟨"isRange", some (.bool isRange)⟩ := by
    cases nulls <;> cases start <;> cases stop <;> rfl
  have hactive : Form.find ["active", "isOnChange", "IsOnChange"]
      (toFields nulls ⟨name, start, stop, isRange, active⟩) = ⟨"active", some (.bool active)⟩ := by
    cases nulls <;> cases start <;> cases stop <;> rfl
  unfold read
  rw [hstart, hstop, hrange, hactive, default_dateValue?, default_dateValue?]
  rfl

/-- The field of a date is written without loss. -/
theorem isExact_of_dateValue? {nulls : Bool} {date : Option Moment} {v : Json}
    (h : dateValue? nulls date = some v) : v.IsExact := by
  cases date with
  | some m =>
    cases h
    exact .str _
  | none =>
    cases nulls with
    | false => cases h
    | true =>
      cases h
      exact .null

/-- A date range filter is written without loss. -/
theorem isExact_toFields (nulls : Bool) (f : DateRangeFilter) : (Json.obj (f.toFields nulls)).IsExact := by
  refine .obj ?_ fun field hfield => ?_
  · unfold toFields
    cases dateValue? nulls f.startDate <;> cases dateValue? nulls f.endDate <;> simp
  · have hdate : ∀ {name date}, field ∈ ((dateValue? nulls date).map fun v => (name, v)).toList →
        field.2.IsExact := by
      intro name date h
      obtain ⟨v, hv, rfl⟩ := Option.map_eq_some_iff.mp (Option.mem_toList.mp h)
      exact isExact_of_dateValue? hv
    unfold toFields at hfield
    simp only [List.mem_append, List.mem_cons, List.not_mem_nil, or_false] at hfield
    rcases hfield with ((rfl | hstart) | hstop) | rfl | rfl
    · exact .str _
    · exact hdate hstart
    · exact hdate hstop
    · exact .bool _
    · exact .bool _

/-- What is kept is what selects something. -/
theorem isApplicable_iff (f : DateRangeFilter) : f.isApplicable = true ↔ f.Selects := by
  obtain ⟨name, start, stop, isRange, active⟩ := f
  unfold isApplicable Selects lower upper
  cases isRange with
  | false => cases start <;> simp
  | true =>
    cases start with
    | none => simp
    | some a =>
      cases stop with
      | none => simp
      | some b => simp [Moment.sameInstant_withOffsetOf]

instance : DecidablePred Selects := fun f => decidable_of_iff _ f.isApplicable_iff

end DateRangeFilter

/-- The filters of a coded array are read back, and those that are applicable are kept. -/
theorem decodeDateRanges_toFields (nulls : Bool) (filters : List DateRangeFilter) :
    decodeDateRanges (some (coded (.arr (filters.map fun f => .obj (f.toFields nulls))))) =
      .ok (filters.filter (·.isApplicable)) := by
  have hexact : ∀ v ∈ filters.map fun f => Json.obj (f.toFields nulls), v.IsExact := by
    rw [List.forall_mem_map]
    exact fun f _ => f.isExact_toFields nulls
  have hread : (filters.map fun f => Json.obj (f.toFields nulls)).mapM
      (decodeItem .ranges .invalidRange DateRangeFilter.read) = .ok filters := by
    refine mapM_map_eq_ok fun f _ => ?_
    simp only [decodeItem, f.read_toFields nulls]
  unfold decodeDateRanges
  rw [FilterKind.items_coded .ranges hexact, ok_bind, hread, ok_bind]
  rfl

/-- Date range filters are read back from their coded array, if they select something. -/
theorem decodeDateRanges_coded (nulls : Bool) (filters : List DateRangeFilter) :
    decodeDateRanges (some (coded (.arr (filters.map fun f => .obj (f.toFields nulls))))) =
      .ok (filters.filter fun f => f.Selects) := by
  have hkept : filters.filter (·.isApplicable) = filters.filter fun f => f.Selects :=
    List.filter_congr fun f _ => by rw [Bool.eq_iff_iff, decide_eq_true_iff, f.isApplicable_iff]
  rw [decodeDateRanges_toFields, hkept]

end Backoffice
