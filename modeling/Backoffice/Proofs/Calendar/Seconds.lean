import Mathlib
import Backoffice.Calendar.Moment

/-!
# Whole seconds of a time

`unixTimestamp` counts seconds in floating point and drops the fraction.  From 1970 to the year 2514,
where floating-point numbers lie closer together than two microseconds, that is the count rounded down:
`WallTime.unixTimestamp_eq_unixSeconds`.
-/

namespace Backoffice

/-! ### Rounding -/

/-- The nearest whole number is the whole part or the next one. -/
theorem roundHalfEven_le (num den : ℕ) : roundHalfEven num den ≤ num / den + 1 := by
  unfold roundHalfEven
  dsimp only
  split_ifs <;> omega

/-- The nearest whole number is not below the whole part. -/
theorem le_roundHalfEven (num den : ℕ) : num / den ≤ roundHalfEven num den := by
  unfold roundHalfEven
  dsimp only
  split_ifs <;> omega

/-- A fraction that is nearer to the whole number below it is rounded down to it. -/
theorem roundHalfEven_lt {num den bound : ℕ} (h : 2 * num + den < 2 * bound * den) :
    roundHalfEven num den < bound := by
  have hden : 0 < den := by
    rcases Nat.eq_zero_or_pos den with hzero | hpos
    · rw [hzero] at h
      omega
    · exact hpos
  have hsplit := Nat.div_add_mod num den
  have hmod := Nat.mod_lt num hden
  have hquotient : num / den < bound := by
    rw [Nat.div_lt_iff_lt_mul hden]
    nlinarith
  unfold roundHalfEven
  dsimp only
  split_ifs with hless hmore
  · exact hquotient
  · -- with less than half missing, the number itself would lie too close to `bound`
    by_contra hge
    have heq : num / den + 1 = bound := by omega
    rw [← heq] at h
    nlinarith
  · by_contra hge
    have heq : num / den + 1 = bound := by omega
    rw [← heq] at h
    nlinarith

/-- A whole number and a fraction are rounded apart. -/
theorem roundHalfEven_add_mul (whole num den : ℕ) (hwhole : 2 ∣ whole) (hden : 0 < den) :
    roundHalfEven (whole * den + num) den = whole + roundHalfEven num den := by
  have hdiv : (whole * den + num) / den = whole + num / den := by
    rw [Nat.add_comm, Nat.add_mul_div_right _ _ hden, Nat.add_comm]
  have hmod : (whole * den + num) % den = num % den := by
    rw [Nat.add_comm, Nat.add_mul_mod_self_right]
  unfold roundHalfEven
  rw [hdiv, hmod]
  dsimp only
  split_ifs <;> omega

/-- A quotient that is rounded at a binary place and then cut is not below its whole part. -/
theorem div_le_roundHalfEven_shift (n k : ℕ) {den : ℕ} (hden : 0 < den) :
    n / den ≤ roundHalfEven (n * 2 ^ k) den / 2 ^ k := by
  rw [Nat.le_div_iff_mul_le (Nat.two_pow_pos k)]
  refine le_trans ?_ (le_roundHalfEven _ _)
  rw [Nat.le_div_iff_mul_le hden, Nat.mul_right_comm]
  exact Nat.mul_le_mul_right _ (Nat.div_mul_le_self n den)

/-- A quotient that is rounded at a binary place and then cut is its whole part or the next number. -/
theorem roundHalfEven_shift_le (n k : ℕ) {den : ℕ} (hden : 0 < den) :
    roundHalfEven (n * 2 ^ k) den / 2 ^ k ≤ n / den + 1 := by
  have hlt : n < (n / den + 1) * den := (Nat.div_lt_iff_lt_mul hden).mp (Nat.lt_succ_self _)
  have hwhole : n * 2 ^ k / den < 2 ^ k * (n / den + 1) := by
    rw [Nat.div_lt_iff_lt_mul hden, Nat.mul_assoc, Nat.mul_comm]
    exact Nat.mul_lt_mul_of_pos_left hlt (Nat.two_pow_pos k)
  exact Nat.div_le_of_le_mul (le_trans (roundHalfEven_le _ _) hwhole)

/-- A quotient that is rounded at a binary place fine enough and then cut is its whole part. -/
theorem roundHalfEven_shift_eq (n : ℕ) {k den : ℕ} (hk : k ≠ 0) (hden : 0 < den) (hfine : den < 2 * 2 ^ k) :
    roundHalfEven (n * 2 ^ k) den / 2 ^ k = n / den := by
  -- the whole part is exact, and the fraction cannot be rounded up to one
  have hsplit : n * 2 ^ k = n / den * 2 ^ k * den + n % den * 2 ^ k := by
    conv_lhs => rw [← Nat.div_add_mod n den]
    ring
  have hfraction : roundHalfEven (n % den * 2 ^ k) den < 2 ^ k := by
    have hmod : n % den + 1 ≤ den := Nat.mod_lt n hden
    refine roundHalfEven_lt ?_
    have hwhole : (n % den + 1) * (2 * 2 ^ k) ≤ den * (2 * 2 ^ k) := Nat.mul_le_mul_right _ hmod
    linarith
  have heven : 2 ∣ n / den * 2 ^ k := Dvd.dvd.mul_left (dvd_pow_self 2 hk) _
  rw [hsplit, roundHalfEven_add_mul _ _ _ heven hden, Nat.add_comm,
    Nat.add_mul_div_right _ _ (Nat.two_pow_pos k), Nat.div_eq_of_lt hfraction, Nat.zero_add]

/-! ### A count of microseconds in seconds -/

namespace Binary64

/-- The exponent for a count of microseconds leaves at least 13 binary places behind the point, and at
least 19 before the year 2514. -/
theorem exists_exponentFor {n : ℕ} (hn : 0 < n) (hbound : n < 2 ^ 59) :
    ∃ k : ℕ, 13 ≤ k ∧ exponentFor n secondMicros = -(k : ℤ) ∧
      (n < 2 ^ 34 * secondMicros → 19 ≤ k) := by
  have hlog : Nat.log2 secondMicros = 19 := by decide
  have hlow : Nat.log2 n < 59 := (Nat.log2_lt hn.ne').mpr hbound
  have hguess : max minExponent ((Nat.log2 n : ℤ) - Nat.log2 secondMicros - 53) =
      -((72 - Nat.log2 n : ℕ) : ℤ) := by
    rw [hlog]
    unfold minExponent
    omega
  have hscale : scale n secondMicros (-((72 - Nat.log2 n : ℕ) : ℤ)) =
      (n * 2 ^ (72 - Nat.log2 n), secondMicros) := by
    unfold scale
    rw [if_pos (by omega), Int.natAbs_neg, Int.natAbs_natCast]
  unfold exponentFor
  simp only [hguess, hscale]
  split_ifs with hfits
  · refine ⟨72 - Nat.log2 n, by omega, rfl, fun hearly => ?_⟩
    have hearly' : n < 2 ^ 54 := lt_trans hearly (by decide)
    have := (Nat.log2_lt hn.ne').mpr hearly'
    omega
  · refine ⟨71 - Nat.log2 n, by omega, by omega, fun hearly => ?_⟩
    have hearly' : n < 2 ^ 54 := lt_trans hearly (by decide)
    have hlt := (Nat.log2_lt hn.ne').mpr hearly'
    -- with 53 binary digits in front of it, the 19th place is still kept
    by_contra hless
    have hexact : Nat.log2 n = 53 := by omega
    rw [hexact] at hfits
    refine hfits ((Nat.div_lt_iff_lt_mul (by decide)).mpr ?_)
    calc n * 2 ^ (72 - 53) < 2 ^ 34 * secondMicros * 2 ^ (72 - 53) :=
          Nat.mul_lt_mul_of_pos_right hearly (by decide)
      _ = 2 ^ 53 * secondMicros := by decide

/-- The whole part of a count of microseconds in seconds, by way of a floating-point number. -/
theorem exists_truncate?_ofRatio (negative : Bool) {n : ℕ} (hn : 0 < n) (hbound : n < 2 ^ 59) :
    ∃ k : ℕ, (n < 2 ^ 34 * secondMicros → 19 ≤ k) ∧
      (ofRatio negative n secondMicros).truncate? =
        some (truncateRatio negative (roundHalfEven (n * 2 ^ k) secondMicros) (2 ^ k)) := by
  obtain ⟨k, hk, hexponent, hearly⟩ := exists_exponentFor hn hbound
  refine ⟨k, hearly, ?_⟩
  have hscale : scale n secondMicros (-(k : ℤ)) = (n * 2 ^ k, secondMicros) := by
    unfold scale
    rw [if_pos (by omega), Int.natAbs_neg, Int.natAbs_natCast]
  unfold ofRatio
  rw [if_neg hn.ne']
  simp only [hexponent, hscale]
  by_cases hcarry : roundHalfEven (n * 2 ^ k) secondMicros = 2 ^ 53
  · obtain ⟨j, rfl⟩ : ∃ j, k = j + 1 := ⟨k - 1, by omega⟩
    have hhalf : (2 : ℕ) ^ 53 / 2 ^ (j + 1) = 2 ^ 52 / 2 ^ j := by
      rw [pow_succ 2 52, pow_succ 2 j, Nat.mul_div_mul_right _ _ (by decide)]
    have hcast : -((j + 1 : ℕ) : ℤ) + 1 = -(j : ℤ) := by omega
    rw [if_pos hcarry, hcarry]
    simp only [hcast]
    rw [if_neg (by unfold maxExponent; omega)]
    unfold truncate? ratio?
    simp only []
    rw [if_pos (by omega), Int.natAbs_neg, Int.natAbs_natCast]
    unfold truncateRatio
    simp only [Option.map_some, hhalf]
  · rw [if_neg hcarry]
    simp only []
    rw [if_neg (by unfold maxExponent; omega)]
    unfold truncate? ratio?
    simp only []
    rw [if_pos (by omega), Int.natAbs_neg, Int.natAbs_natCast]
    rfl

end Binary64

/-! ### The count of seconds of a time -/

namespace WallTime

/-- The microseconds since 1970 are fewer than `2 ^ 59`, and so are those before it. -/
theorem natAbs_unixMicros_lt (t : WallTime) : t.unixMicros.natAbs < 2 ^ 59 := by
  have hcalendar : calendarMicros = 315537897600000000 := by decide
  have hepoch : unixEpoch.micros = 62135596800000000 := by decide
  have ht := t.inCalendar
  rw [hcalendar] at ht
  unfold unixMicros
  rw [hepoch]
  omega

/-- The count of seconds is the exact count cut toward zero, or one further from zero; in the 544 years
before and after 1970 it is the former. -/
theorem exists_unixTimestamp (t : WallTime) : ∃ q : ℕ,
    t.unixTimestamp = (if t.unixMicros < 0 then -(q : ℤ) else q) ∧
      t.unixMicros.natAbs / secondMicros ≤ q ∧ q ≤ t.unixMicros.natAbs / secondMicros + 1 ∧
      (t.unixMicros.natAbs < 2 ^ 34 * secondMicros → q = t.unixMicros.natAbs / secondMicros) := by
  have hmicros := t.natAbs_unixMicros_lt
  have hsecond : 0 < secondMicros := by decide
  unfold unixTimestamp
  dsimp only
  rcases Nat.eq_zero_or_pos t.unixMicros.natAbs with hzero | hpos
  · have hnow : t.unixMicros = 0 := Int.natAbs_eq_zero.mp hzero
    rw [hnow]
    exact ⟨0, by decide, by decide, by decide, fun _ => by decide⟩
  · obtain ⟨k, hk, htruncate⟩ :=
      Binary64.exists_truncate?_ofRatio (decide (t.unixMicros < 0)) hpos hmicros
    refine ⟨roundHalfEven (t.unixMicros.natAbs * 2 ^ k) secondMicros / 2 ^ k, ?_,
      div_le_roundHalfEven_shift _ k hsecond, roundHalfEven_shift_le _ k hsecond, fun hearly => ?_⟩
    · rw [htruncate, Option.getD_some]
      unfold truncateRatio
      simp only [decide_eq_true_eq]
    · have hplaces := hk hearly
      refine roundHalfEven_shift_eq _ (by omega) hsecond ?_
      calc secondMicros < 2 * 2 ^ 19 := by decide
        _ ≤ 2 * 2 ^ k := Nat.mul_le_mul_left 2 (Nat.pow_le_pow_right (by decide) hplaces)

/-- The count of seconds is a number of few digits. -/
theorem natAbs_unixTimestamp_lt (t : WallTime) : t.unixTimestamp.natAbs < 2 ^ 59 := by
  have hmicros := t.natAbs_unixMicros_lt
  have hsecond : secondMicros = 1000000 := rfl
  obtain ⟨q, hq, -, hle, hearly⟩ := t.exists_unixTimestamp
  rw [hsecond] at hle hearly
  rw [hq]
  split_ifs <;> omega

/-- The count of seconds is at most one less than the exact count rounded down. -/
theorem unixSeconds_le (t : WallTime) : t.unixSeconds ≤ t.unixTimestamp + 1 := by
  have hfloor : t.unixSeconds = t.unixMicros / secondMicros :=
    Int.fdiv_eq_ediv_of_nonneg _ (Int.natCast_nonneg secondMicros)
  have hsecond : secondMicros = 1000000 := rfl
  obtain ⟨q, hq, hbelow, habove, -⟩ := t.exists_unixTimestamp
  rw [hsecond] at hbelow habove hfloor
  rw [hfloor, hq]
  -- before 1970 the count is cut toward zero
  split_ifs with hpast
  · omega
  · omega

/-- A time that is a second later or more does not count as an earlier second. -/
theorem unixSeconds_le_unixTimestamp {t later : WallTime} (h : t.micros + secondMicros ≤ later.micros) :
    t.unixSeconds ≤ later.unixTimestamp := by
  have hnext : t.unixSeconds + 1 ≤ later.unixSeconds := by
    unfold unixSeconds unixMicros
    rw [Int.fdiv_eq_ediv_of_nonneg _ (Int.natCast_nonneg secondMicros),
      Int.fdiv_eq_ediv_of_nonneg _ (Int.natCast_nonneg secondMicros)]
    have hsecond : secondMicros = 1000000 := rfl
    rw [hsecond] at h ⊢
    omega
  have := later.unixSeconds_le
  omega

/-- From 1970 to the year 2514 the count of seconds is rounded down. -/
theorem unixTimestamp_eq_unixSeconds {t : WallTime} (hsince : 0 ≤ t.unixMicros)
    (huntil : t.unixMicros < 2 ^ 34 * secondMicros) : t.unixTimestamp = t.unixSeconds := by
  have hfloor : t.unixSeconds = t.unixMicros / secondMicros :=
    Int.fdiv_eq_ediv_of_nonneg _ (Int.natCast_nonneg secondMicros)
  have hsecond : secondMicros = 1000000 := rfl
  obtain ⟨q, hq, -, -, hearly⟩ := t.exists_unixTimestamp
  rw [hsecond] at huntil hearly hfloor
  rw [hq, if_neg (by omega), hfloor]
  omega

end WallTime

end Backoffice
