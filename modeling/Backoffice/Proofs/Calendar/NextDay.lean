import Mathlib
import Backoffice.Proofs.Calendar.RoundTrip

/-!
# The day after

`Date.next` is the date after a date as a calendar on the wall has it: the next day of the month, or else the
first of the next month, or else New Year.  It is the date of the next day number (`Date.ofDayNumber_succ`),
so a time falls on the next date exactly if its day is the next one (`WallTime.date_eq_next_iff`).
-/

namespace Backoffice

/-! ### Days of dates -/

/-- The days up to and including a month are those before the month and those of the month. -/
theorem sum_take_succ_months {y k : ℕ} (hk : k < 12) :
    ((monthLengths y).take (k + 1)).sum = ((monthLengths y).take k).sum + (monthLengths y).getD k 0 := by
  have hlength : k < (monthLengths y).length := hk
  rw [List.sum_take_succ _ _ hlength, List.getD_eq_getElem _ _ hlength]

/-- Every month has a first day. -/
theorem monthLengths_pos (y : ℕ) {k : ℕ} (hk : k < 12) : 0 < (monthLengths y).getD k 0 := by
  have hlength : k < (monthLengths y).length := hk
  have hpos : ∀ l ∈ monthLengths y, 0 < l := by
    unfold monthLengths
    split <;> decide
  rw [List.getD_eq_getElem _ _ hlength]
  exact hpos _ (List.getElem_mem hlength)

/-- The days of some months and some days of the next one lead to that month and to the day after them. -/
theorem Date.monthOfDay_sum_take (month : ℕ) {k d : ℕ} {lengths : List ℕ} (hk : k < lengths.length)
    (hd : d < lengths.getD k 0) :
    Date.monthOfDay month ((lengths.take k).sum + d) lengths = (month + k, d + 1) := by
  induction lengths generalizing month k with
  | nil => simp at hk
  | cons l rest ih =>
    cases k with
    | zero =>
      have hl : d < l := by simpa using hd
      simp [Date.monthOfDay, hl]
    | succ k =>
      have hpast : ¬ l + (rest.take k).sum + d < l := by omega
      have hrest : l + (rest.take k).sum + d - l = (rest.take k).sum + d := by omega
      rw [List.take_succ_cons, List.sum_cons, Date.monthOfDay, if_neg hpast, hrest,
        ih (month + 1) (by simpa using hk) (by simpa using hd), Nat.add_right_comm, Nat.add_assoc]

namespace Date

/-- A day lies in only one year. -/
theorem yearOfDay_eq {y n : ℕ} (hstart : daysBeforeYear y ≤ n) (hend : n < daysBeforeYear (y + 1)) :
    yearOfDay n = y := by
  obtain ⟨-, hstart', hend'⟩ := yearOfDay_spec n
  rcases lt_trichotomy (yearOfDay n) y with hlt | heq | hgt
  · have hmono := daysBeforeYear_mono (Nat.succ_le_of_lt hlt)
    exact absurd (hend'.trans_le (hmono.trans hstart)) (lt_irrefl n)
  · exact heq
  · have hmono := daysBeforeYear_mono (Nat.succ_le_of_lt hgt)
    exact absurd (hend.trans_le (hmono.trans hstart')) (lt_irrefl n)

/-- A day that is counted from the beginning of a year and of a month of it has the date that is meant. -/
theorem ofDayNumber_of_place {y k d : ℕ} (hy : 1 ≤ y) (hk : k < 12) (hd : d < (monthLengths y).getD k 0) :
    ofDayNumber (daysBeforeYear y + ((monthLengths y).take k).sum + d) = ⟨y, k + 1, d + 1⟩ := by
  have hmonths : ((monthLengths y).take (k + 1)).sum ≤ (monthLengths y).sum :=
    (List.take_sublist _ _).sum_le_sum fun _ _ => Nat.zero_le _
  have hyear : yearOfDay (daysBeforeYear y + ((monthLengths y).take k).sum + d) = y := by
    rw [sum_take_succ_months hk] at hmonths
    refine yearOfDay_eq (by omega) ?_
    rw [← daysBeforeYear_add_sum hy]
    omega
  have hwithin : daysBeforeYear y + ((monthLengths y).take k).sum + d - daysBeforeYear y =
      ((monthLengths y).take k).sum + d := by omega
  unfold ofDayNumber
  simp only [hyear, hwithin, monthOfDay_sum_take 1 hk hd, Nat.add_comm 1 k]

/-! ### The next date -/

/-- The number of days of the month of a date. -/
def monthLength (d : Date) : ℕ :=
  (monthLengths d.year).getD (d.month - 1) 0

/-- The date of the day after. -/
def next (d : Date) : Date :=
  if d.day < d.monthLength then { d with day := d.day + 1 }
  else if d.month < 12 then ⟨d.year, d.month + 1, 1⟩
  else ⟨d.year + 1, 1, 1⟩

/-- The day after has the next date. -/
theorem ofDayNumber_succ (n : ℕ) : ofDayNumber (n + 1) = (ofDayNumber n).next := by
  obtain ⟨hy, -, -⟩ := yearOfDay_spec n
  obtain ⟨k, d, hdate, hk, hd, hsum⟩ := ofDayNumber_place n
  generalize yearOfDay n = y at hy hdate hd hsum
  rw [hdate]
  unfold next monthLength
  simp only [Nat.add_sub_cancel]
  have hmonth := sum_take_succ_months (y := y) hk
  split_ifs with hday hdecember
  · rw [← hsum, Nat.add_assoc]
    exact ofDayNumber_of_place hy hk hday
  · -- the month is over, and the next one begins
    have hfirst : n + 1 = daysBeforeYear y + ((monthLengths y).take (k + 1)).sum + 0 := by omega
    rw [hfirst]
    exact ofDayNumber_of_place hy hdecember (monthLengths_pos y hdecember)
  · -- the year is over with its twelfth month
    have hlast : k + 1 = (monthLengths y).length := by
      change k + 1 = 12
      omega
    rw [hlast, List.take_length] at hmonth
    have hyear := daysBeforeYear_add_sum hy
    have hfirst : n + 1 = daysBeforeYear (y + 1) + ((monthLengths (y + 1)).take 0).sum + 0 := by
      rw [List.take_zero, List.sum_nil]
      omega
    rw [hfirst]
    exact ofDayNumber_of_place (Nat.le_add_left 1 y) (by norm_num) (monthLengths_pos _ (by norm_num))

/-- A leap day comes after the 28th of February of a leap year, and New Year after New Year's Eve. -/
example : next ⟨2024, 2, 28⟩ = ⟨2024, 2, 29⟩ ∧ next ⟨1900, 2, 28⟩ = ⟨1900, 3, 1⟩ ∧
    next ⟨2023, 12, 31⟩ = ⟨2024, 1, 1⟩ := by
  decide

/-- Different days have different dates. -/
theorem ofDayNumber_inj {m n : ℕ} : ofDayNumber m = ofDayNumber n ↔ m = n := by
  constructor
  · intro h
    rw [← dayNumber_ofDayNumber m, h, dayNumber_ofDayNumber]
  · rintro rfl
    rfl

end Date

/-- A time falls on the date after that of another exactly if it falls on the day after. -/
theorem WallTime.date_eq_next_iff {t w : WallTime} :
    w.date = t.date.next ↔ w.micros / dayMicros = t.micros / dayMicros + 1 := by
  unfold WallTime.date
  rw [← Date.ofDayNumber_succ, Date.ofDayNumber_inj]

end Backoffice
