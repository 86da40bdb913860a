import Mathlib
import Backoffice.Text.Numeral

/-!
# The order of texts made of digits

Texts that are put together from parts of fixed width, some of them numbers filled with zeros, come in
the same order as the numbers that one gets by writing all the parts in one row
(`Ranked.append`, `ranked_padded`).
-/

namespace Backoffice.Text

/-- Of lists that begin with parts of one length the parts decide first. -/
theorem append_lt_append_iff {xs ys : List Char} (h : xs.length = ys.length) (xs' ys' : List Char) :
    xs ++ xs' < ys ++ ys' ↔ xs < ys ∨ xs = ys ∧ xs' < ys' := by
  induction xs generalizing ys with
  | nil =>
    have hys : ys = [] := List.length_eq_zero_iff.mp h.symm
    subst hys
    simp
  | cons x xs ih =>
    cases ys with
    | nil => cases h
    | cons y ys =>
      have hlen : xs.length = ys.length := Nat.succ.inj h
      simp only [List.cons_append, List.cons_lt_cons_iff, ih hlen, List.cons.injEq]
      tauto

/-- Two lists of one length that compare as two numbers do. -/
structure Ranked (xs ys : List Char) (m n : ℕ) : Prop where
  length_eq : xs.length = ys.length
  eq_iff : xs = ys ↔ m = n
  lt_iff : xs < ys ↔ m < n

namespace Ranked

/-- A part that is the same in both lists does not count. -/
protected theorem refl (xs : List Char) : Ranked xs xs 0 0 :=
  ⟨rfl, by simp, by simp⟩

/-- Further parts are further digits of the numbers, in a base that none of them reaches. -/
theorem append {xs ys xs' ys' : List Char} {m n m' n' : ℕ} (h : Ranked xs ys m n)
    (h' : Ranked xs' ys' m' n') {base : ℕ} (hm : m' < base) (hn : n' < base) :
    Ranked (xs ++ xs') (ys ++ ys') (m * base + m') (n * base + n') := by
  have key : ∀ {a b a' b' : ℕ}, a' < base → b' < base → a < b → a * base + a' < b * base + b' := by
    intro a b a' b' ha _ hab
    calc a * base + a' < a * base + base := Nat.add_lt_add_left ha _
      _ = (a + 1) * base := by ring
      _ ≤ b * base := Nat.mul_le_mul_right _ hab
      _ ≤ b * base + b' := Nat.le_add_right _ _
  have hlt : m * base + m' < n * base + n' ↔ m < n ∨ m = n ∧ m' < n' := by
    constructor
    · intro hlt
      rcases lt_trichotomy m n with hmn | rfl | hnm
      · exact Or.inl hmn
      · exact Or.inr ⟨rfl, Nat.lt_of_add_lt_add_left hlt⟩
      · exact absurd (key hn hm hnm) (Nat.not_lt.mpr hlt.le)
    · rintro (hmn | ⟨rfl, hmn⟩)
      · exact key hm hn hmn
      · exact Nat.add_lt_add_left hmn _
  have heq : m * base + m' = n * base + n' ↔ m = n ∧ m' = n' := by
    constructor
    · intro heq
      rcases lt_trichotomy m n with hmn | rfl | hnm
      · exact absurd heq (key hm hn hmn).ne
      · exact ⟨rfl, Nat.add_left_cancel heq⟩
      · exact absurd heq (key hn hm hnm).ne'
    · rintro ⟨rfl, rfl⟩
      rfl
  refine ⟨by simp [h.length_eq, h'.length_eq], ?_, ?_⟩
  · rw [heq, ← h.eq_iff, ← h'.eq_iff]
    constructor
    · intro hlists
      exact List.append_inj hlists h.length_eq
    · rintro ⟨rfl, rfl⟩
      rfl
  · rw [append_lt_append_iff h.length_eq, h.lt_iff, h.eq_iff, h'.lt_iff, hlt]

/-- A part that is the same in both lists does not change how they compare. -/
theorem append_same {xs ys : List Char} {m n : ℕ} (h : Ranked xs ys m n) (sep : List Char) :
    Ranked (xs ++ sep) (ys ++ sep) m n := by
  simpa using h.append (Ranked.refl sep) Nat.one_pos Nat.one_pos

end Ranked

/-- Digits come in the order of their values. -/
theorem ranked_digitChar {m n : ℕ} (hm : m < 10) (hn : n < 10) :
    Ranked [Nat.digitChar m] [Nat.digitChar n] m n := by
  have key : ∀ m < 10, ∀ n < 10,
      (Nat.digitChar m = Nat.digitChar n ↔ m = n) ∧ (Nat.digitChar m < Nat.digitChar n ↔ m < n) := by
    decide
  obtain ⟨heq, hlt⟩ := key m hm n hn
  exact ⟨rfl, by simpa using heq, by simpa [List.cons_lt_cons_iff] using hlt⟩

/-- The characters of a filled number are those of its tenth and its last digit. -/
theorem toList_padded_succ {width n : ℕ} (hw : 0 < width) :
    (padded (width + 1) n).toList =
      (padded width (n / 10)).toList ++ [Nat.digitChar (n % 10)] := by
  simp only [padded, String.toList_ofList]
  rw [Nat.toDigits_eq_if (by norm_num : 1 < 10)]
  split
  · rename_i h
    rw [Nat.div_eq_of_lt h, Nat.mod_eq_of_lt h, Nat.toDigits_zero]
    simp only [List.length_singleton, Nat.add_sub_cancel]
    rw [← List.replicate_succ', Nat.sub_add_cancel hw]
  · rw [List.length_append, List.length_singleton, Nat.add_sub_add_right, List.append_assoc]

/-- Numbers that fit the width come in the order of their texts. -/
theorem ranked_padded (width : ℕ) {m n : ℕ} (hw : 0 < width) (hm : m < 10 ^ width) (hn : n < 10 ^ width) :
    Ranked (padded width m).toList (padded width n).toList m n := by
  induction width, hw using Nat.le_induction generalizing m n with
  | base =>
    have hm' : m < 10 := by simpa using hm
    have hn' : n < 10 := by simpa using hn
    have toList_eq : ∀ k < 10, (padded 1 k).toList = [Nat.digitChar k] := by decide
    rw [toList_eq m hm', toList_eq n hn']
    exact ranked_digitChar hm' hn'
  | succ width hw ih =>
    rw [pow_succ] at hm hn
    have tail : Ranked (padded width (m / 10)).toList (padded width (n / 10)).toList (m / 10) (n / 10) :=
      ih (Nat.div_lt_of_lt_mul (by rwa [Nat.mul_comm])) (Nat.div_lt_of_lt_mul (by rwa [Nat.mul_comm]))
    have last : Ranked [Nat.digitChar (m % 10)] [Nat.digitChar (n % 10)] (m % 10) (n % 10) :=
      ranked_digitChar (Nat.mod_lt _ (by norm_num)) (Nat.mod_lt _ (by norm_num))
    have both := tail.append last (Nat.mod_lt m (by norm_num)) (Nat.mod_lt n (by norm_num))
    rw [Nat.div_add_mod', Nat.div_add_mod'] at both
    rw [toList_padded_succ hw, toList_padded_succ hw]
    exact both

end Backoffice.Text
