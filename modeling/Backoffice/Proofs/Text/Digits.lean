import Mathlib
import Backoffice.Text.Numeral

/-!
# Decimal digits

The digits that a number is written with, and the number that they are read as.
-/

namespace Backoffice.Text

/-- The ASCII digits are the digits of the library. -/
theorem isDigit_eq (c : Char) : isDigit c = c.isDigit := by
  unfold isDigit asciiDigit? Char.isDigit
  by_cases h : '0' ≤ c ∧ c ≤ '9'
  · rw [if_pos h]
    simp only [Char.le_def] at h
    simpa using h
  · rw [if_neg h]
    simp only [Char.le_def, not_and] at h
    simpa [-not_le] using h

/-- A digit is no sign. -/
theorem not_sign_of_isDigit {c : Char} (h : isDigit c = true) : c ≠ '-' ∧ c ≠ '+' := by
  constructor
  · rintro rfl
    cases h
  · rintro rfl
    cases h

/-- A number is written with digits. -/
theorem isDigit_of_mem_toDigits {n : ℕ} {c : Char} (h : c ∈ Nat.toDigits 10 n) : isDigit c = true := by
  rw [isDigit_eq]
  exact Nat.isDigit_of_mem_toDigits (by norm_num) (by norm_num) h

/-- A number filled with zeros is written with digits. -/
theorem isDigit_of_mem_padded {width n : ℕ} {c : Char} (h : c ∈ (padded width n).toList) :
    isDigit c = true := by
  unfold padded at h
  rw [String.toList_ofList, List.mem_append] at h
  rcases h with hzero | hdigit
  · rw [List.eq_of_mem_replicate hzero]
    rfl
  · exact isDigit_of_mem_toDigits hdigit

/-- A number filled with zeros has a digit. -/
theorem padded_toList_ne_nil (width n : ℕ) : (padded width n).toList ≠ [] := by
  unfold padded
  rw [String.toList_ofList]
  exact List.append_ne_nil_of_right_ne_nil _ Nat.toDigits_ne_nil

/-- The number that digits are read as is the one of the library. -/
theorem natOf_eq (cs : List Char) : natOf cs = Nat.ofDigitChars 10 cs 0 := by
  unfold natOf ofDigits Nat.ofDigitChars
  rw [List.foldl_map]
  rfl

/-- Reading the digits of a number gives the number. -/
@[simp] theorem natOf_toDigits (n : ℕ) : natOf (Nat.toDigits 10 n) = n := by
  rw [natOf_eq]
  exact Nat.ofDigitChars_ten_toDigits

/-- The last digit counts once, and the digits before it ten times. -/
theorem natOf_concat (cs : List Char) (c : Char) : natOf (cs ++ [c]) = 10 * natOf cs + (c.toNat - 48) := by
  unfold natOf ofDigits
  simp

/-- So many digits write a number below that power of ten. -/
theorem natOf_lt {cs : List Char} (h : ∀ c ∈ cs, isDigit c = true) : natOf cs < 10 ^ cs.length := by
  induction cs using List.reverseRecOn with
  | nil => decide
  | append_singleton cs c ih =>
    have hvalue : c.toNat - 48 < 10 := by
      have hc := h c (by simp)
      rw [isDigit_eq, Char.isDigit_iff_toNat] at hc
      exact Nat.lt_of_le_of_lt (Nat.sub_le_sub_right hc.2 48) (by decide)
    have hcs := ih fun d hd => h d (List.mem_append_left _ hd)
    rw [natOf_concat, List.length_append, List.length_singleton, pow_succ]
    omega

/-- Digits write a number that needs no more of them. -/
theorem length_toDigits_natOf {cs : List Char} (h : ∀ c ∈ cs, isDigit c = true) (hne : cs ≠ []) :
    (Nat.toDigits 10 (natOf cs)).length ≤ cs.length :=
  (Nat.length_toDigits_le_iff (by norm_num) (List.length_pos_iff.mpr hne)).mpr (natOf_lt h)

/-- Zeros in front of a number do not count. -/
theorem natOf_replicate_append (k : ℕ) (cs : List Char) : natOf (List.replicate k '0' ++ cs) = natOf cs := by
  induction k with
  | zero => rfl
  | succ k ih =>
    rw [← ih]
    rfl

/-- A number filled with zeros is read as the number. -/
@[simp] theorem natOf_padded (width n : ℕ) : natOf (padded width n).toList = n := by
  unfold padded
  rw [String.toList_ofList, natOf_replicate_append, natOf_toDigits]

/-- A number that fits the width is filled to the width. -/
theorem length_padded {width n : ℕ} (hwidth : 0 < width) (h : n < 10 ^ width) :
    (padded width n).toList.length = width := by
  have hdigits : (Nat.toDigits 10 n).length ≤ width :=
    (Nat.length_toDigits_le_iff (by norm_num) hwidth).mpr h
  unfold padded
  rw [String.toList_ofList, List.length_append, List.length_replicate]
  omega

/-- The digits in front of something else. -/
theorem takeWhile_digits {ds rest : List Char} (hds : ∀ c ∈ ds, isDigit c = true)
    (hrest : ∀ c ∈ rest.head?, isDigit c = false) :
    (ds ++ rest).takeWhile isDigit = ds ∧ (ds ++ rest).dropWhile isDigit = rest := by
  rw [List.takeWhile_append_of_pos hds, List.dropWhile_append_of_pos hds]
  cases rest with
  | nil => simp
  | cons c rest =>
    have hc : isDigit c = false := hrest c rfl
    rw [List.takeWhile_cons_of_neg (by simp [hc]), List.dropWhile_cons_of_neg (by simp [hc])]
    simp

/-- A number without a leading zero: the first digit of a positive number is not zero. -/
theorem head?_toDigits_ne_zero {n : ℕ} (h : 0 < n) : (Nat.toDigits 10 n).head? ≠ some '0' := by
  induction n using Nat.strong_induction_on with
  | _ n ih =>
    rw [Nat.toDigits_eq_if (by norm_num)]
    split
    · rename_i hlt
      have key : ∀ m < 10, 0 < m → [Nat.digitChar m].head? ≠ some '0' := by decide
      exact key n hlt h
    · rename_i hge
      have hpos : 0 < n / 10 := Nat.div_pos (not_lt.mp hge) (by norm_num)
      have hne := ih (n / 10) (Nat.div_lt_self h (by norm_num)) hpos
      rwa [List.head?_append_of_ne_nil _ Nat.toDigits_ne_nil]

/-- An integer is written with the digits of its magnitude, after a minus sign if it is negative. -/
theorem toList_decimal (n : ℤ) : (decimal n).toList =
    if n < 0 then '-' :: Nat.toDigits 10 n.natAbs else Nat.toDigits 10 n.natAbs := by
  unfold decimal
  split <;> simp [Nat.repr]

/-- Different integers are written differently. -/
theorem decimal_inj {n m : ℤ} : decimal n = decimal m ↔ n = m := by
  refine ⟨fun h => ?_, congrArg decimal⟩
  have hchars := congrArg String.toList h
  have hminus : ∀ (k : ℕ) (cs : List Char), '-' :: cs ≠ Nat.toDigits 10 k := by
    intro k cs hk
    have hdigit : isDigit '-' = true := isDigit_of_mem_toDigits (hk ▸ List.mem_cons_self)
    cases hdigit
  have habs : ∀ k l : ℕ, Nat.toDigits 10 k = Nat.toDigits 10 l → k = l := by
    intro k l hkl
    rw [← natOf_toDigits k, hkl, natOf_toDigits]
  rw [toList_decimal, toList_decimal] at hchars
  split_ifs at hchars with hn hm hm
  · have := habs _ _ (List.cons.inj hchars).2
    omega
  · exact absurd hchars (hminus _ _)
  · exact absurd hchars.symm (hminus _ _)
  · have := habs _ _ hchars
    omega

end Backoffice.Text
