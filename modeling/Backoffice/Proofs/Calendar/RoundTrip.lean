import Mathlib
import Backoffice.Proofs.Calendar.Order
import Backoffice.Proofs.Calendar.Spans
import Backoffice.Proofs.Text.Digits

/-!
# Dates and times read back

A day has the number of the date that is found for it, and the date is one of the calendar
(`Date.dayNumber_ofDayNumber`, `Date.isValid_ofDayNumber`).  So a moment is read back from its text:
`Moment.ofText?_text`.  The proof goes through the text from the left, one reader after the other, each
with whatever follows its own part.
-/

namespace Backoffice

/-! ### Days and their dates -/

/-- The month and the day of the month that a day leads to, counted back: the months before that month
and the days before that day make up the number of the day. -/
theorem Date.monthOfDay_place (month : ℕ) {n : ℕ} {lengths : List ℕ} (h : n < lengths.sum) :
    ∃ k d, Date.monthOfDay month n lengths = (month + k, d + 1) ∧ k < lengths.length ∧
      d < lengths.getD k 0 ∧ (lengths.take k).sum + d = n := by
  induction lengths generalizing month n with
  | nil => simp at h
  | cons l rest ih =>
    unfold Date.monthOfDay
    by_cases hn : n < l
    · exact ⟨0, n, if_pos hn, by simp, by simpa using hn, by simp⟩
    · rw [List.sum_cons] at h
      obtain ⟨k, d, hplace, hk, hd, hsum⟩ := ih (month + 1) (show n - l < rest.sum by omega)
      refine ⟨k + 1, d, ?_, by simpa using hk, by simpa using hd, ?_⟩
      · rw [if_neg hn, hplace]
        ext <;> simp only []
        omega
      · rw [List.take_succ_cons, List.sum_cons]
        omega

namespace Date

/-- The date of a day counted back: the months before it and the days before it in its month make up the
day of the year. -/
theorem ofDayNumber_place (n : ℕ) :
    ∃ k d, ofDayNumber n = ⟨yearOfDay n, k + 1, d + 1⟩ ∧ k < 12 ∧
      d < (monthLengths (yearOfDay n)).getD k 0 ∧
      daysBeforeYear (yearOfDay n) + ((monthLengths (yearOfDay n)).take k).sum + d = n := by
  obtain ⟨-, hstart, -⟩ := yearOfDay_spec n
  obtain ⟨k, d, hplace, hk, hd, hsum⟩ := monthOfDay_place 1 (dayOfYear_lt n)
  refine ⟨k, d, ?_, hk, hd, by omega⟩
  unfold ofDayNumber
  simp only [hplace, Nat.add_comm 1 k]

/-- The date of a day has the number of the day. -/
@[simp] theorem dayNumber_ofDayNumber (n : ℕ) : (ofDayNumber n).dayNumber = n := by
  obtain ⟨k, d, hdate, -, -, hsum⟩ := ofDayNumber_place n
  unfold dayNumber
  rw [hdate]
  exact hsum

/-- The days of the calendar have dates of the calendar. -/
theorem isValid_ofDayNumber {n : ℕ} (h : n < calendarDays) : (ofDayNumber n).isValid = true := by
  obtain ⟨hyear, -, -⟩ := yearOfDay_spec n
  have hlast := yearOfDay_lt h
  obtain ⟨k, d, hdate, hk, hd, -⟩ := ofDayNumber_place n
  unfold isValid
  rw [hdate]
  simp only [Nat.add_sub_cancel, Bool.and_eq_true, decide_eq_true_eq]
  omega

end Date

namespace WallTime

/-- A time is the time of its date and its hours, minutes, seconds and microseconds. -/
theorem ofFields?_date (t : WallTime) :
    ofFields? t.date (t.ofDay / secondMicros / 3600) (t.ofDay / secondMicros / 60 % 60)
      (t.ofDay / secondMicros % 60) t.micro = some t := by
  have hvalid : t.date.isValid = true := Date.isValid_ofDayNumber t.day_lt
  have hseconds := t.seconds_lt
  have hmicro : t.micro < secondMicros := t.micro_lt
  have hday : t.date.dayNumber = t.micros / dayMicros := Date.dayNumber_ofDayNumber _
  unfold ofFields?
  rw [if_pos (by simp only [hvalid, Bool.true_and, Bool.and_eq_true, decide_eq_true_eq]; omega), hday]
  refine (congrArg ofMicros? ?_).trans (ofMicros?_eq_some_iff.mpr rfl)
  unfold micro ofDay dayMicros secondMicros
  omega

end WallTime

namespace Moment

/-! ### Readers -/

/-- A number of two digits is read as the number. -/
theorem exists_twoDigits? {n : ℕ} (h : n < 100) :
    ∃ a b, (Text.padded 2 n).toList = [a, b] ∧ twoDigits? a b = some n := by
  obtain ⟨a, b, hab⟩ := List.length_eq_two.mp (Text.length_padded (by norm_num) (show n < 10 ^ 2 from h))
  have hdigit : ∀ c ∈ [a, b], Text.isDigit c = true := by
    rw [← hab]
    exact fun c hc => Text.isDigit_of_mem_padded hc
  rw [List.forall_mem_cons, List.forall_mem_singleton] at hdigit
  refine ⟨a, b, hab, ?_⟩
  unfold twoDigits?
  rw [hdigit.1, hdigit.2, ← hab, Text.natOf_padded]
  rfl

/-- A year is written with four digits that are read as the year. -/
theorem exists_fourDigits {n : ℕ} (h : n < 10 ^ 4) :
    ∃ a b c d, (Text.padded 4 n).toList = [a, b, c, d] ∧ [a, b, c, d].all Text.isDigit = true ∧
      Text.natOf [a, b, c, d] = n := by
  have hlength : (Text.padded 4 n).toList.length = 4 := Text.length_padded (by norm_num) h
  have hdigits : (Text.padded 4 n).toList.all Text.isDigit = true :=
    List.all_eq_true.mpr fun c hc => Text.isDigit_of_mem_padded hc
  have hvalue := Text.natOf_padded 4 n
  match hcs : (Text.padded 4 n).toList, hlength with
  | [a, b, c, d], _ =>
    rw [hcs] at hdigits hvalue
    exact ⟨a, b, c, d, rfl, hdigits, hvalue⟩

/-- A date is read as the date, whatever follows it. -/
theorem readDate?_text {d : Date} (hyear : d.year < 10 ^ 4) (hmonth : d.month < 100) (hday : d.day < 100)
    (rest : List Char) : readDate? (d.text.toList ++ rest) = some (d, rest) := by
  obtain ⟨y₁, y₂, y₃, y₄, hyears, hdigits, hvalue⟩ := exists_fourDigits hyear
  obtain ⟨m₁, m₂, hmonths, hmonth⟩ := exists_twoDigits? hmonth
  obtain ⟨d₁, d₂, hdays, hday⟩ := exists_twoDigits? hday
  have htext : d.text.toList = [y₁, y₂, y₃, y₄, '-', m₁, m₂, '-', d₁, d₂] := by
    unfold Date.text
    simp only [String.toList_append, hyears, hmonths, hdays]
    rfl
  rw [htext]
  simp only [List.cons_append, List.nil_append, readDate?]
  rw [if_pos hdigits, hmonth, hday, hvalue]
  rfl

/-- A fraction of six digits is read as its number. -/
theorem readFraction?_padded {n : ℕ} (h : n < 10 ^ 6) {rest : List Char}
    (hrest : ∀ c ∈ rest.head?, Text.isDigit c = false) :
    readFraction? ((Text.padded 6 n).toList ++ rest) = some (n, rest) := by
  have hdigits : ∀ c ∈ (Text.padded 6 n).toList, Text.isDigit c = true :=
    fun c hc => Text.isDigit_of_mem_padded hc
  obtain ⟨htake, hdrop⟩ := Text.takeWhile_digits hdigits hrest
  have hlength : (Text.padded 6 n).toList.length = 6 := Text.length_padded (by norm_num) h
  unfold readFraction?
  simp only [htake, hdrop]
  rw [if_neg (Text.padded_toList_ne_nil 6 n), List.take_append_of_le_length hlength.ge,
    List.take_of_length_le hlength.le, Text.natOf_padded]

/-- The hours and minutes of an offset and its direction make up the offset. -/
theorem offset?_natAbs (o : Offset) :
    offset? (decide (o.minutes < 0)) (o.minutes.natAbs / 60) (o.minutes.natAbs % 60) = some o := by
  have hday := o.lessThanDay
  have hsum : o.minutes.natAbs / 60 * 60 + o.minutes.natAbs % 60 = o.minutes.natAbs := by omega
  have hminutes : (if decide (o.minutes < 0) = true then -(o.minutes.natAbs : ℤ) else o.minutes.natAbs) =
      o.minutes := by
    split_ifs with h
    · rw [decide_eq_true_eq] at h
      omega
    · rw [decide_eq_true_eq] at h
      omega
  unfold offset?
  rw [if_pos (by omega)]
  simp only [hsum, hminutes]
  rw [dif_pos hday]

/-- An offset is read as the offset. -/
theorem readOffset?_text (o : Offset) : readOffset? o.text.toList = some (some o) := by
  have hday := o.lessThanDay
  obtain ⟨h₁, h₂, hhours, hhour⟩ := exists_twoDigits? (show o.minutes.natAbs / 60 < 100 by omega)
  obtain ⟨m₁, m₂, hminutes, hminute⟩ := exists_twoDigits? (show o.minutes.natAbs % 60 < 100 by omega)
  have hoffset := offset?_natAbs o
  unfold Offset.text
  simp only [String.toList_append, hhours, hminutes]
  by_cases hwest : o.minutes < 0
  · rw [if_pos hwest]
    rw [decide_eq_true hwest] at hoffset
    have hread : readOffset? ['-', h₁, h₂, ':', m₁, m₂] = some (some o) := by
      simp [readOffset?, hhour, hminute, hoffset]
    exact hread
  · rw [if_neg hwest]
    rw [decide_eq_false hwest] at hoffset
    have hread : readOffset? ['+', h₁, h₂, ':', m₁, m₂] = some (some o) := by
      simp [readOffset?, hhour, hminute, hoffset]
    exact hread

/-- The text of the offset of a moment, which is empty if there is none. -/
def offsetText (offset : Option Offset) : String :=
  match offset with
  | some o => o.text
  | none => ""

/-- The offset of a moment is read as it is. -/
theorem readOffset?_offsetText (offset : Option Offset) :
    readOffset? (offsetText offset).toList = some offset := by
  cases offset with
  | none => rfl
  | some o => exact readOffset?_text o

/-- The text of an offset begins with a sign. -/
theorem head?_offsetText {offset : Option Offset} {c : Char} (h : c ∈ (offsetText offset).toList.head?) :
    Text.isDigit c = false ∧ c ≠ '.' ∧ c ≠ ',' := by
  cases offset with
  | none => cases h
  | some o =>
    have hsign : c = '-' ∨ c = '+' := by
      unfold offsetText Offset.text at h
      dsimp only at h
      split_ifs at h
      · left
        simpa [String.toList_append] using h.symm
      · right
        simpa [String.toList_append] using h.symm
    rcases hsign with rfl | rfl
    · decide
    · decide

/-- Seconds and a fraction are read as they are, whatever follows them that can follow them. -/
theorem readSeconds?_fraction {a b : Char} {second : ℕ} (hsecond : twoDigits? a b = some second)
    {micro : ℕ} (hmicro : micro < 10 ^ 6) {rest : List Char}
    (hrest : ∀ c ∈ rest.head?, Text.isDigit c = false ∧ c ≠ '.' ∧ c ≠ ',') :
    readSeconds? (':' :: a :: b ::
        ((if micro = 0 then "" else "." ++ Text.padded 6 micro).toList ++ rest)) =
      some (second, micro, rest) := by
  by_cases hzero : micro = 0
  · rw [if_pos hzero, hzero, String.toList_empty, List.nil_append]
    unfold readSeconds?
    simp only [hsecond]
    cases rest with
    | nil => rfl
    | cons c rest =>
      obtain ⟨-, hpoint, hcomma⟩ := hrest c rfl
      change (if c = '.' ∨ c = ',' then _ else some (second, 0, c :: rest)) = _
      rw [if_neg (not_or.mpr ⟨hpoint, hcomma⟩)]
  · have hfraction := readFraction?_padded hmicro fun c hc => (hrest c hc).1
    have hpoint : ("." ++ Text.padded 6 micro).toList = '.' :: (Text.padded 6 micro).toList := by
      rw [String.toList_append]
      rfl
    rw [if_neg hzero, hpoint, List.cons_append]
    simp only [readSeconds?, hsecond, hfraction, Option.bind_eq_bind, Option.bind_some, true_or, if_true]
    rfl

/-- A moment is read from its text. -/
theorem ofIso?_text (m : Moment) : ofIso? m.text.toList = some m := by
  obtain ⟨t, offset⟩ := m
  have hlast := t.seconds_lt
  obtain ⟨h₁, h₂, hhours, hhour⟩ := exists_twoDigits? (show t.ofDay / secondMicros / 3600 < 100 by omega)
  obtain ⟨m₁, m₂, hminutes, hminute⟩ :=
    exists_twoDigits? (show t.ofDay / secondMicros / 60 % 60 < 100 by omega)
  obtain ⟨s₁, s₂, hseconds, hsecond⟩ := exists_twoDigits? (show t.ofDay / secondMicros % 60 < 100 by omega)
  obtain ⟨hyear, hmonth, hday⟩ := t.date_bounds
  have htext : (text ⟨t, offset⟩).toList = t.date.text.toList ++ 'T' :: h₁ :: h₂ :: ':' :: m₁ :: m₂ ::
      ':' :: s₁ :: s₂ :: ((if t.micro = 0 then "" else "." ++ Text.padded 6 t.micro).toList ++
        (offsetText offset).toList) := by
    unfold text WallTime.text WallTime.clockText
    simp only [String.toList_append, hhours, hminutes, hseconds, List.append_assoc]
    rfl
  have hhead : ∀ c ∈ (offsetText offset).toList.head?, Text.isDigit c = false ∧ c ≠ '.' ∧ c ≠ ',' :=
    fun c hc => head?_offsetText hc
  have hrest := readSeconds?_fraction hsecond t.micro_lt hhead
  rw [htext]
  unfold ofIso?
  rw [readDate?_text hyear hmonth hday]
  simp only [Option.bind_eq_bind, Option.bind_some, hhour, hminute, hrest, readOffset?_offsetText,
    WallTime.ofFields?_date]
  rfl

/-- A moment is read from its text. -/
theorem ofText?_text (m : Moment) : ofText? m.text = some m := by
  unfold ofText?
  rw [ofIso?_text, Option.some_or]

end Moment

end Backoffice
