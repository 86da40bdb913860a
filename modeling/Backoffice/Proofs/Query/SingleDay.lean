import Mathlib
import Backoffice.Proofs.Calendar.NextDay
import Backoffice.Query.Predicate

/-!
# The day that a filter selects

Without range mode a date range filter asks for the times from one midnight to before the next.  These are
the moments whose date, on a clock with the offset of the start, is the date after that of the start
(`DateRangeFilter.isMetBy_predicate_iff`).  The end of the filter does not matter.
-/

namespace Backoffice

/-! ### Moments on the clock of another offset -/

namespace Moment

/-- The clock on the wall at the moment, in a place with the offset; none if the calendar has no such time.
Without an offset the clock shows the moment as it is. -/
def wallIn? (m : Moment) (offset : Option Offset) : Option WallTime :=
  WallTime.ofMicros? (m.instant + offset.elim 0 Offset.micros)

/-- The instant of a moment is what its clock shows less its offset. -/
theorem instant_eq (m : Moment) : m.instant = m.wall.micros - m.offset.elim 0 Offset.micros := by
  obtain ⟨wall, offset⟩ := m
  cases offset <;> simp [instant]

/-- A clock of an offset shows a time within some days exactly if the moment lies between the instants at
which the days begin and end there. -/
theorem exists_wallIn?_iff {t : Moment} {offset : Option Offset} {day : ℕ} (hday : day < calendarDays) :
    (∃ w, t.wallIn? offset = some w ∧ w.micros / dayMicros = day) ↔
      (day * dayMicros : ℕ) ≤ t.instant + offset.elim 0 Offset.micros ∧
        t.instant + offset.elim 0 Offset.micros < ((day + 1) * dayMicros : ℕ) := by
  unfold wallIn?
  generalize t.instant + offset.elim 0 Offset.micros = n
  simp only [WallTime.ofMicros?_eq_some_iff]
  constructor
  · rintro ⟨w, rfl, hw⟩
    unfold dayMicros at hw ⊢
    omega
  · rintro ⟨hlow, hhigh⟩
    have hcalendar : n.toNat < calendarMicros := by
      unfold calendarMicros calendarDays dayMicros at *
      omega
    refine ⟨⟨n.toNat, hcalendar⟩, ?_, ?_⟩
    · simp only []
      omega
    · unfold dayMicros at *
      simp only []
      omega

end Moment

/-! ### Predicates of moments -/

/-- The moment stands in the order to another one.  Moments of which only one has an offset cannot be
compared. -/
def Op.Relates (op : Op) (t m : Moment) : Prop :=
  t.offset.isSome = m.offset.isSome ∧
    match op with
    | .ge => m.instant ≤ t.instant
    | .le => t.instant ≤ m.instant
    | .lt => t.instant < m.instant
    | _ => False

/-- The moment, as the value of a field, satisfies a single predicate on the field. -/
def Node.IsMetBy (field : String) (t : Moment) : Node → Prop
  | .test name op (.moment m) => name = field ∧ op.Relates t m
  | _ => False

/-- A midnight some days later has the offset of the moment. -/
theorem Moment.offset_of_addDays? {m n : Moment} {days : ℕ} (h : m.startOfDay.addDays? days = some n) :
    n.offset = m.offset := by
  unfold addDays? at h
  obtain ⟨w, -, rfl⟩ := Option.map_eq_some_iff.mp h
  rfl

namespace DateRangeFilter

variable {f : DateRangeFilter} {start : Moment}

/-- A filter without range mode asks for the times from the midnight after its start to before the next
midnight, unless the calendar ends before. -/
theorem exists_midnights (hstart : f.startDate = some start) (hsingle : f.isRange = false)
    (hlast : start.wall.micros / dayMicros + 2 < calendarDays) :
    ∃ first last : Moment, f.predicate =
        .ok (.all [.test f.fieldName .ge (.moment first), .test f.fieldName .lt (.moment last)]) ∧
      first.offset = start.offset ∧ last.offset = start.offset ∧
      first.wall.micros = (start.wall.micros / dayMicros + 1) * dayMicros ∧
      last.wall.micros = (start.wall.micros / dayMicros + 2) * dayMicros := by
  have hadd : ∀ days ≤ 2, ∃ m, start.startOfDay.addDays? days = some m := by
    intro days hdays
    rw [← Option.ne_none_iff_exists', Ne, WallTime.startOfDay_addDays?_eq_none_iff]
    omega
  obtain ⟨first, hfirst⟩ := hadd 1 one_le_two
  obtain ⟨last, hlast⟩ := hadd 2 le_rfl
  refine ⟨first, last, ?_, Moment.offset_of_addDays? hfirst, Moment.offset_of_addDays? hlast,
    WallTime.micros_of_startOfDay_addDays? hfirst, WallTime.micros_of_startOfDay_addDays? hlast⟩
  unfold predicate
  rw [hsingle, if_neg Bool.false_ne_true, hstart]
  change between f.fieldName (start.startOfDay.addDays? 1) (start.startOfDay.addDays? 2) = _
  rw [hfirst, hlast]
  rfl

/-- Without range mode the end of a filter plays no part. -/
theorem predicate_withEnd (hsingle : f.isRange = false) (stop : Option Moment) :
    predicate { f with endDate := stop } = f.predicate := by
  unfold predicate
  simp only [hsingle]
  rfl

/-- A filter without range mode that starts no later than the 29th of December 9999 has two predicates,
whatever its end is, and they are met by exactly the moments whose date, on a clock with the offset of the
start, is the next date after that of the start. -/
theorem isMetBy_predicate_iff (hstart : f.startDate = some start) (hsingle : f.isRange = false)
    (hlast : start.wall.date.dayNumber ≤ Date.dayNumber ⟨9999, 12, 29⟩) :
    ∃ first last : Node, (∀ stop, predicate { f with endDate := stop } = .ok (.all [first, last])) ∧
      ∀ t : Moment, t.offset.isSome = start.offset.isSome →
        (first.IsMetBy f.fieldName t ∧ last.IsMetBy f.fieldName t ↔
          ∃ w, t.wallIn? start.offset = some w ∧ w.date = start.wall.date.next) := by
  have hday : start.wall.micros / dayMicros + 2 < calendarDays := by
    have hnumber : start.wall.date.dayNumber = start.wall.micros / dayMicros :=
      Date.dayNumber_ofDayNumber _
    have hend : Date.dayNumber ⟨9999, 12, 29⟩ = 3652056 := by decide +kernel
    unfold calendarDays
    omega
  obtain ⟨first, last, hpredicate, hfirstOffset, hlastOffset, hfirst, hlast⟩ :=
    exists_midnights hstart hsingle hday
  refine ⟨_, _, fun stop => (predicate_withEnd hsingle stop).trans hpredicate, fun t ht => ?_⟩
  have hge : Node.IsMetBy f.fieldName t (.test f.fieldName .ge (.moment first)) ↔
      first.instant ≤ t.instant := by
    simp [Node.IsMetBy, Op.Relates, ht, hfirstOffset]
  have hlt : Node.IsMetBy f.fieldName t (.test f.fieldName .lt (.moment last)) ↔
      t.instant < last.instant := by
    simp [Node.IsMetBy, Op.Relates, ht, hlastOffset]
  have hnext : start.wall.micros / dayMicros + 1 < calendarDays := by omega
  simp only [hge, hlt, WallTime.date_eq_next_iff]
  rw [Moment.exists_wallIn?_iff hnext, first.instant_eq, last.instant_eq, hfirstOffset, hlastOffset,
    hfirst, hlast]
  exact and_congr sub_le_iff_le_add lt_sub_iff_add_lt

/-- A filter whose start is in the afternoon of the 28th of February 2024, five hours west of UTC, is met by a
moment that in UTC falls into March: at five hours west it is the evening of the leap day. -/
theorem isMetBy_predicate_iff_leapDay :
    let west : Offset := ⟨-300, by decide⟩
    let start : Moment := ⟨⟨63844739100000000, by decide⟩, some west⟩
    let t : Moment := .utc ⟨63844853400000000, by decide⟩
    start.wall.date = ⟨2024, 2, 28⟩ ∧ t.wall.date = ⟨2024, 3, 1⟩ ∧
      ∃ first last : Node, predicate ⟨"created_at", some start, none, false, true⟩ =
          .ok (.all [first, last]) ∧
        first.IsMetBy "created_at" t ∧ last.IsMetBy "created_at" t := by
  intro west start t
  have hdate : start.wall.date = ⟨2024, 2, 28⟩ := by decide +kernel
  have hwall : t.wallIn? start.offset = some ⟨63844835400000000, by decide⟩ := by decide +kernel
  have hnext : WallTime.date ⟨63844835400000000, by decide⟩ = start.wall.date.next := by decide +kernel
  obtain ⟨first, last, hpredicate, hmet⟩ :=
    isMetBy_predicate_iff (f := ⟨"created_at", some start, none, false, true⟩) rfl rfl
      (by decide +kernel)
  exact ⟨hdate, by decide +kernel, first, last, hpredicate none,
    (hmet t rfl).mpr ⟨_, hwall, hnext⟩⟩

end DateRangeFilter

end Backoffice
