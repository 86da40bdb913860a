import Mathlib
import Backoffice.Calendar.IsoText
import Backoffice.Proofs.Text.Ranking

/-!
# The order of dates and times

Later days have later dates, and a table keeps wall clock times as texts that come in the order of the
times (`WallTime.storedText_lt_iff`).  A comparison of stored texts is therefore a comparison of times.
-/

namespace Backoffice

/-! ### Years and months -/

/-- The days before a year, with the leap days of the years before it. -/
theorem daysBeforeYear_succ (k : ℕ) : daysBeforeYear (k + 1) = 365 * k + k / 4 - k / 100 + k / 400 := rfl

/-- The day lies in the year that is found for it. -/
theorem Date.yearOfDay_spec (n : ℕ) :
    1 ≤ Date.yearOfDay n ∧ daysBeforeYear (Date.yearOfDay n) ≤ n ∧
      n < daysBeforeYear (Date.yearOfDay n + 1) := by
  -- The guess is a year whose first day is at most a day too early or too late for `n`.
  have lower : daysBeforeYear (n * 400 / 146097 + 1) ≤ n := by
    rw [daysBeforeYear_succ]
    omega
  have upper : n < daysBeforeYear (n * 400 / 146097 + 1 + 1 + 1) := by
    rw [daysBeforeYear_succ]
    omega
  unfold Date.yearOfDay
  simp only []
  rw [if_neg (not_lt.mpr lower)]
  split
  · rename_i h
    exact ⟨by omega, h, upper⟩
  · rename_i h
    exact ⟨by omega, lower, not_le.mp h⟩

/-- Later years begin later. -/
theorem daysBeforeYear_mono : Monotone daysBeforeYear := by
  refine monotone_nat_of_le_succ fun y => ?_
  cases y with
  | zero => exact le_refl _
  | succ k =>
    rw [daysBeforeYear_succ, daysBeforeYear_succ]
    omega

/-- Later days lie in later years or in the same one. -/
theorem Date.yearOfDay_le {m n : ℕ} (h : m ≤ n) : Date.yearOfDay m ≤ Date.yearOfDay n := by
  by_contra hlt
  rw [not_le] at hlt
  have hstart := (Date.yearOfDay_spec m).2.1
  have hend := (Date.yearOfDay_spec n).2.2
  have hle := daysBeforeYear_mono (Nat.succ_le_of_lt hlt)
  simp only [Nat.succ_eq_add_one] at hle
  omega

/-- The days of the calendar lie in years of four digits. -/
theorem Date.yearOfDay_lt {n : ℕ} (h : n < calendarDays) : Date.yearOfDay n < 10 ^ 4 := by
  by_contra hle
  rw [not_lt] at hle
  have hstart := (Date.yearOfDay_spec n).2.1
  have hyear := daysBeforeYear_mono hle
  have hdays : daysBeforeYear (10 ^ 4) = calendarDays := by decide
  omega

/-- The months of a year have 365 days in all, and one more in a leap year. -/
theorem sum_monthLengths (y : ℕ) : (monthLengths y).sum = if isLeapYear y then 366 else 365 := by
  unfold monthLengths
  cases isLeapYear y <;> rfl

/-- A year is a leap year if four divides it, unless it is a full century that 400 does not divide. -/
theorem isLeapYear_iff {y : ℕ} : isLeapYear y = true ↔ 4 ∣ y ∧ (¬ 100 ∣ y ∨ 400 ∣ y) := by
  simp [isLeapYear, Nat.dvd_iff_mod_eq_zero]

/-- The months of a year make up the year. -/
theorem daysBeforeYear_add_sum {y : ℕ} (hy : 1 ≤ y) :
    daysBeforeYear y + (monthLengths y).sum = daysBeforeYear (y + 1) := by
  obtain ⟨k, rfl⟩ : ∃ k, y = k + 1 := ⟨y - 1, by omega⟩
  rw [sum_monthLengths, daysBeforeYear_succ, daysBeforeYear_succ, Nat.succ_div, Nat.succ_div,
    Nat.succ_div]
  have h100 : k / 100 ≤ k / 4 := Nat.div_le_div_left (by norm_num) (by norm_num)
  split
  · rename_i hleap
    obtain ⟨h4, hcentury⟩ := isLeapYear_iff.mp hleap
    rw [if_pos h4]
    split <;> split <;> omega
  · rename_i hcommon
    rw [isLeapYear_iff] at hcommon
    split <;> split <;> split <;> omega

/-- No month is longer than 31 days. -/
theorem le_of_mem_monthLengths {y d : ℕ} (h : d ∈ monthLengths y) : d ≤ 31 := by
  unfold monthLengths at h
  split at h <;> simp at h <;> omega

/-- What a day within some months leads to: a month from the first one on, and a day of the month that
is within its length. -/
theorem Date.monthOfDay_spec (month : ℕ) {n : ℕ} {lengths : List ℕ} (h : n < lengths.sum) :
    month ≤ (Date.monthOfDay month n lengths).1 ∧
      (Date.monthOfDay month n lengths).1 < month + lengths.length ∧
      ∃ d ∈ lengths, (Date.monthOfDay month n lengths).2 ≤ d := by
  induction lengths generalizing month n with
  | nil => simp at h
  | cons l rest ih =>
    unfold Date.monthOfDay
    split
    · rename_i hn
      exact ⟨le_refl _, by simp, l, by simp, by simpa using hn⟩
    · rename_i hn
      rw [List.sum_cons] at h
      have hrest : n - l < rest.sum := by omega
      obtain ⟨hlow, hhigh, d, hd, hle⟩ := ih (month + 1) hrest
      exact ⟨by omega, by simp only [List.length_cons]; omega, d, by simp [hd], hle⟩

/-- A later day within some months lies in a later month, or in the same month on a later day. -/
theorem Date.monthOfDay_lt (month : ℕ) {m n : ℕ} {lengths : List ℕ} (hmn : m < n) (hn : n < lengths.sum) :
    (Date.monthOfDay month m lengths).1 < (Date.monthOfDay month n lengths).1 ∨
      (Date.monthOfDay month m lengths).1 = (Date.monthOfDay month n lengths).1 ∧
        (Date.monthOfDay month m lengths).2 < (Date.monthOfDay month n lengths).2 := by
  induction lengths generalizing month m n with
  | nil => simp at hn
  | cons l rest ih =>
    rw [List.sum_cons] at hn
    unfold Date.monthOfDay
    by_cases hnl : n < l
    · rw [if_pos (hmn.trans hnl), if_pos hnl]
      exact Or.inr ⟨rfl, by simpa using hmn⟩
    · rw [if_neg hnl]
      by_cases hml : m < l
      · rw [if_pos hml]
        have hrest : n - l < rest.sum := by omega
        exact Or.inl (Date.monthOfDay_spec (month + 1) hrest).1
      · rw [if_neg hml]
        exact ih _ (by omega) (by omega)

namespace Date

/-- The number that one gets by writing year, month and day in one row. -/
def code (d : Date) : ℕ :=
  (d.year * 100 + d.month) * 100 + d.day

/-- The day within its year lies in the months of the year. -/
theorem dayOfYear_lt (n : ℕ) :
    n - daysBeforeYear (yearOfDay n) < (monthLengths (yearOfDay n)).sum := by
  obtain ⟨hyear, hstart, hend⟩ := yearOfDay_spec n
  have hsum := daysBeforeYear_add_sum hyear
  omega

/-- Months and days of found dates have two digits. -/
theorem ofDayNumber_bounds (n : ℕ) : (ofDayNumber n).month < 100 ∧ (ofDayNumber n).day < 100 := by
  obtain ⟨-, hmonth, d, hd, hday⟩ := monthOfDay_spec 1 (dayOfYear_lt n)
  have hlen : (monthLengths (yearOfDay n)).length = 12 := rfl
  have hd31 := le_of_mem_monthLengths hd
  rw [hlen] at hmonth
  unfold ofDayNumber
  exact ⟨by simp only []; omega, by simp only []; omega⟩

/-- Later days have dates that are greater when written in one row. -/
theorem code_ofDayNumber_strictMono : StrictMono fun n => (ofDayNumber n).code := by
  intro m n h
  obtain ⟨hmonth, hday⟩ := ofDayNumber_bounds m
  simp only []
  rcases (yearOfDay_le h.le).lt_or_eq with hyear | hyear
  · have hm : (ofDayNumber m).year = yearOfDay m := rfl
    have hn : (ofDayNumber n).year = yearOfDay n := rfl
    unfold code
    omega
  · have hstart := (yearOfDay_spec m).2.1
    have hwithin := dayOfYear_lt n
    have hlt := monthOfDay_lt 1
      (show m - daysBeforeYear (yearOfDay n) < n - daysBeforeYear (yearOfDay n) by
        rw [← hyear]; omega) hwithin
    unfold ofDayNumber at hmonth hday ⊢
    unfold code
    rw [hyear] at hmonth hday ⊢
    simp only [] at hmonth hday ⊢
    omega

/-- Year, month and day with hyphens come in the order of the number that they are written as in one
row. -/
theorem ranked_text {c d : Date} (hc : c.year < 10 ^ 4 ∧ c.month < 100 ∧ c.day < 100)
    (hd : d.year < 10 ^ 4 ∧ d.month < 100 ∧ d.day < 100) :
    Text.Ranked c.text.toList d.text.toList c.code d.code := by
  have hyear := Text.ranked_padded 4 (by norm_num) hc.1 hd.1
  have hmonth := Text.ranked_padded 2 (by norm_num) hc.2.1 hd.2.1
  have hday := Text.ranked_padded 2 (by norm_num) hc.2.2 hd.2.2
  have h := (((hyear.append_same "-".toList).append hmonth hc.2.1 hd.2.1).append_same "-".toList).append hday
    hc.2.2 hd.2.2
  unfold text code
  simpa only [String.toList_append] using h

end Date

namespace WallTime

/-- The day of a time lies in the calendar. -/
theorem day_lt (t : WallTime) : t.micros / dayMicros < calendarDays :=
  Nat.div_lt_of_lt_mul (Nat.mul_comm calendarDays dayMicros ▸ t.inCalendar)

/-- The fields of a date have their widths. -/
theorem date_bounds (t : WallTime) :
    t.date.year < 10 ^ 4 ∧ t.date.month < 100 ∧ t.date.day < 100 :=
  ⟨Date.yearOfDay_lt t.day_lt, Date.ofDayNumber_bounds _⟩

/-- The number that one gets by writing hours, minutes and seconds in one row. -/
def clockCode (seconds : ℕ) : ℕ :=
  (seconds / 3600 * 100 + seconds / 60 % 60) * 100 + seconds % 60

/-- Later seconds are greater when written in one row. -/
theorem clockCode_strictMono : StrictMono clockCode := by
  intro m n h
  have hours : ∀ k : ℕ, k / 3600 = k / 60 / 60 := fun k => (Nat.div_div_eq_div_mul k 60 60).symm
  unfold clockCode
  rw [hours m, hours n]
  omega

/-- The number that one gets by writing date, hours, minutes, seconds and microseconds in one row. -/
def code (t : WallTime) : ℕ :=
  (t.date.code * 10 ^ 6 + clockCode (t.ofDay / secondMicros)) * 10 ^ 6 + t.micro

/-- The seconds of a day are fewer than a day has. -/
theorem seconds_lt (t : WallTime) : t.ofDay / secondMicros < 86400 :=
  Nat.div_lt_of_lt_mul (Nat.mod_lt _ (by decide))

/-- The microseconds of a second are fewer than a second has. -/
theorem micro_lt (t : WallTime) : t.micro < 10 ^ 6 :=
  Nat.mod_lt _ (by decide)

/-- The seconds of a day have six digits when written in one row. -/
theorem clockCode_lt (t : WallTime) : clockCode (t.ofDay / secondMicros) < 10 ^ 6 := by
  have h := t.seconds_lt
  unfold clockCode
  omega

/-- Later times are greater when written in one row: they differ first in the date, in the seconds of
the day or in the microseconds of the second. -/
theorem code_lt_of_lt {a b : WallTime} (h : a.micros < b.micros) : a.code < b.code := by
  have ha := a.clockCode_lt
  have ha' := a.micro_lt
  have hcases : a.micros / dayMicros < b.micros / dayMicros ∨
      a.micros / dayMicros = b.micros / dayMicros ∧
        (a.ofDay / secondMicros < b.ofDay / secondMicros ∨
          a.ofDay / secondMicros = b.ofDay / secondMicros ∧ a.micro < b.micro) := by
    unfold micro ofDay dayMicros secondMicros
    omega
  unfold code
  rcases hcases with hday | ⟨hday, hseconds | ⟨hseconds, hmicro⟩⟩
  · have hdate : a.date.code < b.date.code := Date.code_ofDayNumber_strictMono hday
    omega
  · have hdate : a.date = b.date := congrArg Date.ofDayNumber hday
    have hclock := clockCode_strictMono hseconds
    rw [hdate]
    omega
  · have hdate : a.date = b.date := congrArg Date.ofDayNumber hday
    rw [hdate, hseconds]
    omega

/-- The clock text comes in the order of the number that it is written as in one row. -/
theorem ranked_clockText (a b : WallTime) :
    Text.Ranked a.clockText.toList b.clockText.toList (clockCode (a.ofDay / secondMicros))
      (clockCode (b.ofDay / secondMicros)) := by
  have widths : ∀ t : WallTime, t.ofDay / secondMicros / 3600 < 100 ∧
      t.ofDay / secondMicros / 60 % 60 < 100 ∧ t.ofDay / secondMicros % 60 < 100 := by
    intro t
    have h := t.seconds_lt
    omega
  obtain ⟨ha1, ha2, ha3⟩ := widths a
  obtain ⟨hb1, hb2, hb3⟩ := widths b
  have hhours := Text.ranked_padded 2 (by norm_num) ha1 hb1
  have hminutes := Text.ranked_padded 2 (by norm_num) ha2 hb2
  have hseconds := Text.ranked_padded 2 (by norm_num) ha3 hb3
  have h := (((hhours.append_same ":".toList).append hminutes ha2 hb2).append_same ":".toList).append
    hseconds ha3 hb3
  unfold clockText clockCode
  simpa only [String.toList_append] using h

/-- The stored text comes in the order of the number that date and time are written as in one row. -/
theorem ranked_storedText (a b : WallTime) :
    Text.Ranked a.storedText.toList b.storedText.toList a.code b.code := by
  have hdate := Date.ranked_text a.date_bounds b.date_bounds
  have hmicro := Text.ranked_padded 6 (by norm_num) a.micro_lt b.micro_lt
  have h := (((hdate.append_same " ".toList).append (ranked_clockText a b) a.clockCode_lt
    b.clockCode_lt).append_same ".".toList).append hmicro a.micro_lt b.micro_lt
  unfold storedText code
  simpa only [String.toList_append] using h

/-- Stored texts come in the order of the times. -/
theorem storedText_lt_iff {a b : WallTime} : a.storedText < b.storedText ↔ a.micros < b.micros := by
  rw [String.lt_iff_toList_lt, (ranked_storedText a b).lt_iff]
  constructor
  · intro h
    by_contra hle
    rcases (not_lt.mp hle).lt_or_eq with hlt | heq
    · exact absurd h (code_lt_of_lt hlt).le.not_gt
    · have hab : a = b := by
        cases a
        cases b
        simp_all
      exact absurd h (hab ▸ lt_irrefl _)
  · exact code_lt_of_lt

/-- Stored texts come in the order of the times. -/
theorem storedText_le_iff {a b : WallTime} : a.storedText ≤ b.storedText ↔ a.micros ≤ b.micros := by
  rw [← not_lt, ← not_lt, storedText_lt_iff]

end WallTime

end Backoffice
