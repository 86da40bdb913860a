import Mathlib
import Backoffice.Text.Split

/-!
# Cutting at a separator

A text that is put together around a separator is cut there, if the part on the side from which the
separator is looked for is free of it.  The tails of a list that are looked through are its suffixes.
-/

namespace Backoffice.Text

variable {α : Type}

/-- Some tail has the property. -/
theorem someTail_iff {p : List α → Bool} {cs : List α} :
    someTail p cs = true ↔ ∃ tail, tail <:+ cs ∧ p tail = true := by
  induction cs with
  | nil => simp [someTail]
  | cons c cs ih =>
    rw [someTail, Bool.or_eq_true, ih]
    constructor
    · rintro (h | ⟨tail, htail, h⟩)
      · exact ⟨c :: cs, List.suffix_refl _, h⟩
      · exact ⟨tail, htail.trans (List.suffix_cons c cs), h⟩
    · rintro ⟨tail, htail, h⟩
      rcases List.suffix_cons_iff.mp htail with rfl | htail'
      · exact Or.inl h
      · exact Or.inr ⟨tail, htail', h⟩

variable [DecidableEq α] {sep : α} {front back : List α}

/-- Where there is no separator, nothing is cut. -/
theorem splitFirst_eq_none {cs : List α} (h : sep ∉ cs) : splitFirst sep cs = none := by
  induction cs with
  | nil => rfl
  | cons c cs ih =>
    simp only [List.mem_cons, not_or] at h
    rw [splitFirst, if_neg (Ne.symm h.1), ih h.2]
    rfl

/-- The first separator is the one behind a part that has none. -/
theorem splitFirst_append (h : sep ∉ front) :
    splitFirst sep (front ++ sep :: back) = some (front, back) := by
  induction front with
  | nil =>
    rw [List.nil_append, splitFirst, if_pos rfl]
  | cons c front ih =>
    simp only [List.mem_cons, not_or] at h
    rw [List.cons_append, splitFirst, if_neg (Ne.symm h.1), ih h.2]
    rfl

/-- The last separator is the one in front of a part that has none. -/
theorem splitLast_append (h : sep ∉ back) :
    splitLast sep (front ++ sep :: back) = some (front, back) := by
  have hreverse : (front ++ sep :: back).reverse = back.reverse ++ sep :: front.reverse := by simp
  have hback : sep ∉ back.reverse := by simpa using h
  unfold splitLast
  rw [hreverse, splitFirst_append hback]
  simp

/-- Where there is no separator, the whole is the only part. -/
theorem split_eq_singleton {cs : List α} (h : sep ∉ cs) : split sep cs = [cs] := by
  induction cs with
  | nil => rfl
  | cons c cs ih =>
    simp only [List.mem_cons, not_or] at h
    rw [split, if_neg (Ne.symm h.1), ih h.2]

/-- The first part is the one in front of the first separator. -/
theorem split_append (h : sep ∉ front) : split sep (front ++ sep :: back) = front :: split sep back := by
  induction front with
  | nil => rw [List.nil_append, split, if_pos rfl]
  | cons c front ih =>
    simp only [List.mem_cons, not_or] at h
    rw [List.cons_append, split, if_neg (Ne.symm h.1), ih h.2]

/-- There is always a part. -/
theorem split_ne_nil (sep : α) (cs : List α) : split sep cs ≠ [] := by
  cases cs with
  | nil => exact List.cons_ne_nil _ _
  | cons c cs =>
    rw [split]
    split_ifs
    · exact List.cons_ne_nil _ _
    · split <;> exact List.cons_ne_nil _ _

/-- A whole is its only part exactly if there is no separator in it. -/
theorem split_eq_singleton_iff {cs part : List α} : split sep cs = [part] ↔ cs = part ∧ sep ∉ part := by
  constructor
  · intro h
    by_cases hsep : sep ∈ cs
    · obtain ⟨front, back, rfl, hfront⟩ := List.eq_append_cons_of_mem hsep
      rw [split_append hfront, List.cons.injEq] at h
      exact absurd h.2 (split_ne_nil sep back)
    · rw [split_eq_singleton hsep, List.singleton_inj] at h
      exact ⟨h, h ▸ hsep⟩
  · rintro ⟨rfl, hsep⟩
    exact split_eq_singleton hsep

/-- There are several parts exactly if the first of them ends at a separator. -/
theorem split_eq_cons_cons_iff {cs part next : List α} {parts : List (List α)} :
    split sep cs = part :: next :: parts ↔
      ∃ rest, cs = part ++ sep :: rest ∧ sep ∉ part ∧ split sep rest = next :: parts := by
  constructor
  · intro h
    by_cases hsep : sep ∈ cs
    · obtain ⟨front, back, rfl, hfront⟩ := List.eq_append_cons_of_mem hsep
      rw [split_append hfront, List.cons.injEq] at h
      obtain ⟨rfl, hback⟩ := h
      exact ⟨back, rfl, hfront, hback⟩
    · rw [split_eq_singleton hsep] at h
      cases h
  · rintro ⟨rest, rfl, hpart, hrest⟩
    rw [split_append hpart, hrest]

end Backoffice.Text
