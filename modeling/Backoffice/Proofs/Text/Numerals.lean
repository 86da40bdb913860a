import Mathlib
import Backoffice.Proofs.Text.Digits

/-!
# Decimal texts as numerals

The decimal text of an integer is a canonical numeral, so it is read as the integer, unless it has too many
digits.
-/

namespace Backoffice.Text

/-- The digits of a positive number are a canonical numeral, and so they are after a minus sign. -/
theorem canonicalInt_toDigits {m : ℕ} (hpos : 0 < m) (negative : Bool) :
    canonicalInt (if negative then '-' :: Nat.toDigits 10 m else Nat.toDigits 10 m) =
      if m < 10 ^ maxDigits then .ok (signed negative m) else .error .tooLong := by
  have hlength : maxDigits < (Nat.toDigits 10 m).length ↔ ¬ m < 10 ^ maxDigits := by
    rw [← not_le, Nat.length_toDigits_le_iff (by norm_num) (by decide)]
  have hvalue : natOf (Nat.toDigits 10 m) = m := natOf_toDigits m
  have hhead := head?_toDigits_ne_zero hpos
  have hne : Nat.toDigits 10 m ≠ [] := Nat.toDigits_ne_nil
  have hdigits : ∀ c ∈ Nat.toDigits 10 m, isDigit c = true := fun c hc => isDigit_of_mem_toDigits hc
  generalize Nat.toDigits 10 m = ds at *
  have hzero : ds ≠ ['0'] := by
    rintro rfl
    exact hhead rfl
  have hbody : (if ds = ['0'] then Except.ok 0
      else if ds.takeWhile isDigit = [] ∨ (ds.takeWhile isDigit).head? = some '0' then .error .malformed
      else if maxDigits < (ds.takeWhile isDigit).length then .error .tooLong
      else if ds.takeWhile isDigit = ds then .ok (signed negative (natOf (ds.takeWhile isDigit)))
      else .error NumeralFault.malformed) =
        if m < 10 ^ maxDigits then .ok (signed negative m) else .error .tooLong := by
    rw [List.takeWhile_eq_self_iff.mpr hdigits, if_neg hzero, if_neg (not_or.mpr ⟨hne, hhead⟩),
      if_pos rfl, hvalue]
    by_cases hm : m < 10 ^ maxDigits
    · rw [if_pos hm, if_neg (hlength.not.mpr (not_not.mpr hm))]
    · rw [if_neg hm, if_pos (hlength.mpr hm)]
  cases negative with
  | true => exact hbody
  | false =>
    rw [if_neg Bool.false_ne_true]
    unfold canonicalInt
    split
    rename_i heq
    split at heq
    · -- a digit is no minus sign
      cases hdigits '-' List.mem_cons_self
    · cases heq
      exact hbody

/-- The decimal text of an integer is read as the integer, if it does not have too many digits. -/
theorem plainInt_decimal (n : ℤ) : plainInt (decimal n).toList =
    if n.natAbs < 10 ^ maxDigits then .ok n else .error .tooLong := by
  have hcanonical : canonicalInt (decimal n).toList =
      if n.natAbs < 10 ^ maxDigits then .ok n else .error .tooLong := by
    by_cases hzero : n = 0
    · subst hzero
      rw [if_pos]
      · rfl
      · exact Nat.pow_pos (by norm_num)
    · have hsigned : signed (decide (n < 0)) n.natAbs = n := by
        unfold signed
        simp only [decide_eq_true_eq]
        split <;> omega
      have hread := canonicalInt_toDigits (Int.natAbs_pos.mpr hzero) (decide (n < 0))
      rw [hsigned] at hread
      rw [toList_decimal]
      simpa only [decide_eq_true_eq] using hread
  unfold plainInt
  rw [hcanonical]
  split_ifs <;> rfl

end Backoffice.Text
