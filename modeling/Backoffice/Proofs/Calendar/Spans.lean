import Mathlib
import Backoffice.Calendar.Span

/-!
# The time after a span

Where a sum of a time and a span lies in the calendar, its microseconds are the sum:
`WallTime.after_eq_ok_iff`.  A later day is missing only at the end of the calendar:
`WallTime.startOfDay_addDays?_eq_none_iff`.
-/

namespace Backoffice

/-- The calendar has a first microsecond. -/
theorem calendarMicros_pos : 0 < calendarMicros := by decide

/-- The calendar goes on after its first second. -/
theorem secondMicros_lt_calendarMicros : secondMicros < calendarMicros := by decide

namespace WallTime

/-- The first microsecond of the calendar. -/
def first : WallTime :=
  ⟨0, calendarMicros_pos⟩

/-- The time of a count of microseconds is the time with that count. -/
theorem ofMicros?_eq_some_iff {t : WallTime} {n : ℤ} : ofMicros? n = some t ↔ (t.micros : ℤ) = n := by
  unfold ofMicros?
  constructor
  · intro h
    split at h
    · split at h
      · rename_i hnonneg
        cases h
        exact Int.toNat_of_nonneg hnonneg
      · cases h
    · cases h
  · intro h
    have ht := t.inCalendar
    rw [← h, dif_pos (by rwa [Int.toNat_natCast]), if_pos (Int.natCast_nonneg _)]
    simp

/-- The sum of a time and a delay is the time with the sum of the microseconds. -/
theorem add?_eq_some_iff {t later : WallTime} {delta : ℤ} :
    t.add? delta = some later ↔ (later.micros : ℤ) = t.micros + delta :=
  ofMicros?_eq_some_iff

/-- The time after a span is there if the span is not too long and the sum lies in the calendar. -/
theorem after_eq_ok_iff {t later : WallTime} {span : ℤ} :
    t.after span = .ok later ↔ -maxSpanDays ≤ Int.fdiv span dayMicros ∧
      Int.fdiv span dayMicros ≤ maxSpanDays ∧ (later.micros : ℤ) = t.micros + span := by
  unfold after
  dsimp only
  split_ifs with hlong
  · constructor
    · intro h
      cases h
    · rintro ⟨hlow, hhigh, -⟩
      omega
  · rw [← add?_eq_some_iff]
    constructor
    · intro h
      split at h
      · rename_i hadd
        cases h
        exact ⟨by omega, by omega, hadd⟩
      · cases h
    · rintro ⟨-, -, hadd⟩
      rw [hadd]

/-- Beyond the calendar there is no time. -/
theorem exists_after_eq_error {t : WallTime} {span : ℤ} (h : calendarMicros ≤ t.micros + span) :
    ∃ o, t.after span = .error o := by
  cases hafter : t.after span with
  | error o => exact ⟨o, rfl⟩
  | ok later =>
    obtain ⟨-, -, hmicros⟩ := after_eq_ok_iff.mp hafter
    have := later.inCalendar
    omega

/-- The time after a span, forward or back, is there if the sum lies in the calendar. -/
theorem exists_after_of_mem {t : WallTime} {span : ℤ} (hlow : 0 ≤ t.micros + span)
    (hhigh : t.micros + span < calendarMicros) : ∃ later, t.after span = .ok later := by
  have ht := t.inCalendar
  have hdays : Int.fdiv span dayMicros = span / dayMicros :=
    Int.fdiv_eq_ediv_of_nonneg span (Int.natCast_nonneg dayMicros)
  have hlater : (t.micros + span).toNat < calendarMicros := by omega
  -- no two times are further apart than the longest span
  have hlong : -maxSpanDays ≤ span / dayMicros ∧ span / dayMicros ≤ maxSpanDays := by
    unfold calendarMicros calendarDays dayMicros at ht hhigh
    unfold dayMicros maxSpanDays
    omega
  exact ⟨⟨(t.micros + span).toNat, hlater⟩, after_eq_ok_iff.mpr
    ⟨by rw [hdays]; exact hlong.1, by rw [hdays]; exact hlong.2, Int.toNat_of_nonneg hlow⟩⟩

/-- The time after a span is there if the span leads forward and not beyond the calendar. -/
theorem exists_after {t : WallTime} {span : ℤ} (hforward : 0 ≤ span)
    (hcalendar : t.micros + span < calendarMicros) : ∃ later, t.after span = .ok later :=
  exists_after_of_mem (by omega) hcalendar

/-- The time on the clock some days later. -/
theorem micros_of_addDays? {m n : Moment} {days : ℕ} (h : m.addDays? days = some n) :
    (n.wall.micros : Int) = m.wall.micros + days * dayMicros := by
  unfold Moment.addDays? at h
  obtain ⟨w, hw, rfl⟩ := Option.map_eq_some_iff.mp h
  exact add?_eq_some_iff.mp hw

/-- Days counted from midnight, in microseconds. -/
theorem days_after_startOfDay {t : WallTime} {later days : ℕ}
    (h : (later : Int) = t.startOfDay.micros + days * dayMicros) :
    later = (t.micros / dayMicros + days) * dayMicros := by
  have hmod := Nat.mod_le t.micros dayMicros
  simp only [startOfDay] at h
  unfold dayMicros at h hmod ⊢
  omega

/-- The midnight some days later begins the day with that number. -/
theorem micros_of_startOfDay_addDays? {m n : Moment} {days : ℕ}
    (h : m.startOfDay.addDays? days = some n) :
    n.wall.micros = (m.wall.micros / dayMicros + days) * dayMicros :=
  days_after_startOfDay (micros_of_addDays? h)

/-- A later time is missing exactly if it would lie behind the end of the calendar. -/
theorem add?_eq_none_iff {t : WallTime} {delta : ℤ} (h : 0 ≤ delta) :
    t.add? delta = none ↔ (calendarMicros : ℤ) ≤ t.micros + delta := by
  rw [Option.eq_none_iff_forall_ne_some]
  constructor
  · intro hnone
    by_contra hlt
    have hlater : (t.micros + delta).toNat < calendarMicros := by omega
    exact hnone ⟨_, hlater⟩ (add?_eq_some_iff.mpr (Int.toNat_of_nonneg (by omega)))
  · intro hle later hsome
    have hlater := later.inCalendar
    rw [add?_eq_some_iff] at hsome
    omega

/-- The midnight some days later is missing exactly if the calendar has no such day. -/
theorem startOfDay_addDays?_eq_none_iff {m : Moment} {days : ℕ} :
    m.startOfDay.addDays? days = none ↔ calendarDays ≤ m.wall.micros / dayMicros + days := by
  have hmod := Nat.mod_le m.wall.micros dayMicros
  unfold Moment.addDays?
  rw [Option.map_eq_none_iff, add?_eq_none_iff (by positivity)]
  simp only [Moment.startOfDay, startOfDay]
  unfold calendarMicros dayMicros at *
  omega

end WallTime

end Backoffice
