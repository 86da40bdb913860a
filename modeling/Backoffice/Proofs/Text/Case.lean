import Mathlib
import Backoffice.Proofs.Text.Strip
import Backoffice.Text.Case

/-!
# Lowered texts

What `Text.lower` leaves is a fixed point: no character of a lowered text is a capital that is lowered
again, in whatever place it stands.  This rests on the table of runs, of which it is enough to compare
every two (`CaseRun.apart`): the lower forms of a run lie outside all runs.  A lowered text has no ASCII
capitals either, and lowering makes no blanks.
-/

namespace Backoffice.Text

/-! ### The table of runs -/

namespace CaseRun

/-- The code point of the lower form of the first letter. -/
def lowerFirst (r : CaseRun) : ℕ :=
  (r.first + r.shift).toNat

/-- The code point of the lower form of the last letter. -/
def lowerLast (r : CaseRun) : ℕ :=
  (r.last + r.shift).toNat

/-- The lower forms of the run lie before or behind a range of code points. -/
def misses (r : CaseRun) (first last : ℕ) : Bool :=
  Nat.blt r.lowerLast first || Nat.blt last r.lowerFirst

/-- The lower forms of the first run lie outside the second: before it, behind it, or between its
letters, where it goes in steps of two. -/
def apart (r q : CaseRun) : Bool :=
  r.misses q.first q.last || (Nat.beq q.stride 2 && (Nat.beq r.stride 2 || Nat.beq r.first r.last) &&
    Nat.beq ((r.lowerFirst + q.first) % 2) 1)

/-- A letter that a run holds is lowered within the lower forms of the run. -/
theorem lower_bounds {r : CaseRun} {n : ℕ} (hn : r.covers n = true)
    (hnonneg : 0 ≤ (r.first : Int) + r.shift) :
    r.lowerFirst ≤ ((n : Int) + r.shift).toNat ∧ ((n : Int) + r.shift).toNat ≤ r.lowerLast ∧
      (((n : Int) + r.shift).toNat - r.lowerFirst) % r.stride = 0 := by
  unfold covers at hn
  simp only [Bool.and_eq_true, decide_eq_true_eq, beq_iff_eq] at hn
  obtain ⟨⟨hfirst, hlast⟩, hstride⟩ := hn
  have hstep : ((n : Int) + r.shift).toNat - (r.first + r.shift).toNat = n - r.first := by omega
  unfold lowerFirst lowerLast
  rw [hstep]
  exact ⟨by omega, by omega, hstride⟩

/-- A lower form of a run is not in a range that the run misses. -/
theorem lower_of_misses {r : CaseRun} {n first last : ℕ} (hn : r.covers n = true)
    (hnonneg : 0 ≤ (r.first : Int) + r.shift) (h : r.misses first last = true) :
    ((n : Int) + r.shift).toNat < first ∨ last < ((n : Int) + r.shift).toNat := by
  obtain ⟨hlow, hhigh, -⟩ := lower_bounds hn hnonneg
  simp only [misses, Bool.or_eq_true, Nat.blt_eq] at h
  omega

/-- A lower form of a run is not held by a run that lies apart. -/
theorem not_covers_of_apart {r q : CaseRun} {n : ℕ} (hn : r.covers n = true)
    (hnonneg : 0 ≤ (r.first : Int) + r.shift) (h : r.apart q = true) :
    q.covers ((n : Int) + r.shift).toNat = false := by
  by_contra hcovers
  rw [Bool.not_eq_false] at hcovers
  unfold covers at hcovers
  simp only [Bool.and_eq_true, decide_eq_true_eq, beq_iff_eq] at hcovers
  obtain ⟨⟨hqfirst, hqlast⟩, hqstride⟩ := hcovers
  unfold apart at h
  rw [Bool.or_eq_true] at h
  rcases h with hmisses | hbetween
  · have hout := lower_of_misses hn hnonneg hmisses
    omega
  · obtain ⟨hlow, hhigh, hsteps⟩ := lower_bounds hn hnonneg
    simp only [Bool.and_eq_true, Bool.or_eq_true, Nat.beq_eq] at hbetween
    obtain ⟨⟨hq, hr⟩, hodd⟩ := hbetween
    rw [hq] at hqstride
    rcases hr with hr | hr
    · rw [hr] at hsteps
      omega
    · have hsingle : r.lowerFirst = r.lowerLast := by
        unfold lowerFirst lowerLast
        rw [hr]
      omega

end CaseRun

/-- The ranges of code points that are blank. -/
def blankRanges : List (ℕ × ℕ) :=
  [(0x09, 0x0D), (0x1C, 0x20), (0x85, 0x85), (0xA0, 0xA0), (0x1680, 0x1680), (0x2000, 0x200A),
    (0x2028, 0x2028), (0x2029, 0x2029), (0x202F, 0x202F), (0x205F, 0x205F), (0x3000, 0x3000)]

/-- The lower forms of the runs lie outside all runs. -/
theorem caseRuns_apart : (caseRuns.all fun r => caseRuns.all r.apart) = true := by
  decide +kernel

/-- The lower forms of the runs are code points, of which none is blank or the capital I with a dot. -/
theorem caseRuns_miss : ∀ r ∈ caseRuns, 0 ≤ (r.first : Int) + r.shift ∧
    (r.misses 0x130 0x130 = true ∨ r.stride = 2 ∧ r.lowerFirst % 2 = 1) ∧
    (blankRanges.all fun b => r.misses b.1 b.2) = true := by
  decide +kernel

/-! ### Lowered characters -/

/-- The character is left as it is by lowering, wherever it stands. -/
def IsLowered (c : Char) : Prop :=
  c ≠ 'İ' ∧ ∀ r ∈ caseRuns, r.covers c.toNat = false

instance (c : Char) : Decidable (IsLowered c) :=
  inferInstanceAs (Decidable (c ≠ 'İ' ∧ ∀ r ∈ caseRuns, r.covers c.toNat = false))

/-- A lowered character is its own lower form. -/
theorem IsLowered.lowerBetween_eq {c : Char} (h : IsLowered c) (before after : List Char) :
    lowerBetween before c after = [c] := by
  have hsigma : c ≠ 'Σ' := by
    rintro rfl
    exact absurd (h.2 ⟨0x3A3, 0x3AB, 1, 32⟩ (by decide)) (by decide)
  have hfind : caseRuns.find? (·.covers c.toNat) = none := by
    rw [List.find?_eq_none]
    intro r hr
    rw [h.2 r hr]
    exact Bool.false_ne_true
  unfold lowerBetween lowerLetter
  rw [if_neg hsigma, if_neg h.1, hfind]

/-- A lowered character is no ASCII capital. -/
theorem IsLowered.asciiLowerChar_eq {c : Char} (h : IsLowered c) : asciiLowerChar c = c := by
  unfold asciiLowerChar
  rw [if_neg]
  rintro ⟨hA, hZ⟩
  have hcovers : (⟨0x41, 0x5A, 1, 32⟩ : CaseRun).covers c.toNat = true := by
    have hlow : 65 ≤ c.toNat := UInt32.le_iff_toNat_le.mp hA
    have hhigh : c.toNat ≤ 90 := UInt32.le_iff_toNat_le.mp hZ
    unfold CaseRun.covers
    simp only [Bool.and_eq_true, decide_eq_true_eq, beq_iff_eq]
    exact ⟨⟨hlow, hhigh⟩, Nat.mod_one _⟩
  rw [h.2 ⟨0x41, 0x5A, 1, 32⟩ (by decide)] at hcovers
  exact Bool.false_ne_true hcovers

/-- Blanks are the code points of the blank ranges. -/
theorem isBlank_eq (c : Char) :
    isBlank c = blankRanges.any fun b => decide (b.1 ≤ c.toNat) && decide (c.toNat ≤ b.2) := by
  unfold isBlank blankRanges
  simp only [List.any_cons, List.any_nil, Bool.or_false, Bool.or_assoc]
  have hsingle : ∀ n : ℕ, (c.toNat == n) = (decide (n ≤ c.toNat) && decide (c.toNat ≤ n)) := by
    intro n
    rw [Bool.eq_iff_iff, beq_iff_eq, Bool.and_eq_true, decide_eq_true_eq, decide_eq_true_eq]
    omega
  simp only [hsingle]

/-- The null character is a lowered one. -/
theorem caseRuns_not_covers_zero : ∀ r ∈ caseRuns, r.covers 0 = false := by
  decide +kernel

/-- A letter that is looked up in the table is lowered. -/
theorem isLowered_lowerLetter {c : Char} (hdot : c ≠ 'İ') : IsLowered (lowerLetter c) := by
  unfold lowerLetter
  split
  · rename_i r hfind
    have hr : r ∈ caseRuns := List.mem_of_find?_eq_some hfind
    have hcovers : r.covers c.toNat = true := by simpa using List.find?_some hfind
    obtain ⟨hnonneg, hdotted, -⟩ := caseRuns_miss r hr
    have hapart := List.all_eq_true.mp (List.all_eq_true.mp caseRuns_apart r hr)
    have hne : ((c.toNat : Int) + r.shift).toNat ≠ 0x130 := by
      rcases hdotted with hmisses | ⟨hstride, hodd⟩
      · have hout := CaseRun.lower_of_misses hcovers hnonneg hmisses
        omega
      · obtain ⟨hlow, -, hsteps⟩ := CaseRun.lower_bounds hcovers hnonneg
        rw [hstride] at hsteps
        omega
    refine ⟨?_, fun q hq => ?_⟩
    · intro heq
      have hcode := congrArg Char.toNat heq
      rw [Char.toNat_ofNat] at hcode
      split at hcode
      · exact hne hcode
      · exact absurd hcode (by decide)
    · rw [Char.toNat_ofNat]
      split
      · exact CaseRun.not_covers_of_apart hcovers hnonneg (hapart q hq)
      · exact caseRuns_not_covers_zero q hq
  · rename_i hfind
    refine ⟨hdot, fun r hr => ?_⟩
    have hnot := List.find?_eq_none.mp hfind r hr
    rwa [Bool.not_eq_true] at hnot

/-- Looking up a letter in the table makes no blank. -/
theorem isBlank_lowerLetter {c : Char} (h : isBlank c = false) : isBlank (lowerLetter c) = false := by
  unfold lowerLetter
  split
  · rename_i r hfind
    have hcovers : r.covers c.toNat = true := by simpa using List.find?_some hfind
    obtain ⟨hnonneg, -, hblanks⟩ := caseRuns_miss r (List.mem_of_find?_eq_some hfind)
    rw [isBlank_eq, List.any_eq_false]
    intro b hb
    rw [Bool.and_eq_true, decide_eq_true_eq, decide_eq_true_eq, Char.toNat_ofNat]
    split
    · have hout := CaseRun.lower_of_misses hcovers hnonneg (List.all_eq_true.mp hblanks b hb)
      omega
    · have hpositive : ∀ b ∈ blankRanges, 0 < b.1 := by decide
      have hb1 := hpositive b hb
      omega
  · exact h

/-- The characters of a lowered character are lowered, and blank only if the character is. -/
theorem of_mem_lowerBetween {before after : List Char} {c d : Char}
    (h : d ∈ lowerBetween before c after) :
    IsLowered d ∧ (isBlank c = false → isBlank d = false) := by
  have hknown : ∀ d ∈ ['ς', 'σ', 'i', '\u0307'], IsLowered d ∧ isBlank d = false := by
    simp only [List.forall_mem_cons, List.not_mem_nil, IsEmpty.forall_iff, implies_true, and_true]
    exact ⟨⟨by decide +kernel, by decide⟩, ⟨by decide +kernel, by decide⟩,
      ⟨by decide +kernel, by decide⟩, ⟨by decide +kernel, by decide⟩⟩
  unfold lowerBetween at h
  split at h
  · have hd : d ∈ ['ς', 'σ', 'i', '\u0307'] := by
      split at h <;> simp_all
    exact ⟨(hknown d hd).1, fun _ => (hknown d hd).2⟩
  · split at h
    · have hd : d ∈ ['ς', 'σ', 'i', '\u0307'] := by simp_all
      exact ⟨(hknown d hd).1, fun _ => (hknown d hd).2⟩
    · rename_i hdot
      rw [List.mem_singleton] at h
      rw [h]
      exact ⟨isLowered_lowerLetter hdot, isBlank_lowerLetter⟩

/-! ### Lowered texts -/

/-- A character is lowered to something. -/
theorem lowerBetween_ne_nil (before : List Char) (c : Char) (after : List Char) :
    lowerBetween before c after ≠ [] := by
  unfold lowerBetween
  split
  · split <;> exact List.cons_ne_nil _ _
  · split <;> exact List.cons_ne_nil _ _

/-- All characters of a lowered text are lowered. -/
theorem isLowered_of_mem_lowerAfter {before cs : List Char} {d : Char}
    (h : d ∈ lowerAfter before cs) : IsLowered d := by
  induction cs generalizing before with
  | nil => cases h
  | cons c cs ih =>
    rw [lowerAfter, List.mem_append] at h
    rcases h with h | h
    · exact (of_mem_lowerBetween h).1
    · exact ih h

/-- Lowered characters are left as they are. -/
theorem lowerAfter_eq_self {before cs : List Char} (h : ∀ c ∈ cs, IsLowered c) :
    lowerAfter before cs = cs := by
  induction cs generalizing before with
  | nil => rfl
  | cons c cs ih =>
    rw [List.forall_mem_cons] at h
    rw [lowerAfter, h.1.lowerBetween_eq, ih h.2]
    rfl

/-- Lowering a text twice is lowering it once. -/
theorem lower_lower (s : String) : lower (lower s) = lower s := by
  unfold lower
  rw [String.toList_ofList, lowerAfter_eq_self fun _ => isLowered_of_mem_lowerAfter]

/-- A lowered text has no ASCII capitals. -/
theorem asciiLower_lower (s : String) : asciiLower (lower s) = lower s := by
  unfold asciiLower
  rw [← String.toList_inj, String.toList_map]
  have hsame : ∀ c ∈ (lower s).toList, asciiLowerChar c = id c := by
    unfold lower
    rw [String.toList_ofList]
    exact fun c hc => (isLowered_of_mem_lowerAfter hc).asciiLowerChar_eq
  rw [List.map_congr_left hsame, List.map_id]

/-- The last character of a lowered text comes from the last character of the text. -/
theorem exists_of_mem_getLast?_lowerAfter {before cs : List Char} {d : Char}
    (h : d ∈ (lowerAfter before cs).getLast?) :
    ∃ c ∈ cs.getLast?, ∃ before' after, d ∈ lowerBetween before' c after := by
  induction cs generalizing before with
  | nil => cases h
  | cons c cs ih =>
    rw [lowerAfter] at h
    cases cs with
    | nil =>
      rw [lowerAfter, List.append_nil] at h
      exact ⟨c, rfl, before, [], List.mem_of_getLast? h⟩
    | cons c' cs =>
      have hne : lowerAfter (c :: before) (c' :: cs) ≠ [] := by
        rw [lowerAfter]
        exact List.append_ne_nil_of_left_ne_nil (lowerBetween_ne_nil _ _ _) _
      rw [List.getLast?_append_of_ne_nil _ hne] at h
      obtain ⟨e, he, hd⟩ := ih h
      exact ⟨e, by rwa [List.getLast?_cons_cons], hd⟩

/-- Lowering a stripped text makes no blanks at its ends. -/
theorem strip_lower {s : String} (h : strip s = s) : strip (lower s) = lower s := by
  have htrim : trimBy isBlank s.toList = s.toList := by
    unfold strip at h
    rw [← String.toList_inj, String.toList_ofList] at h
    exact h
  have hhead : ∀ c ∈ s.toList.head?, isBlank c = false := by
    intro c hc
    rw [← htrim] at hc
    exact not_of_mem_head?_trimBy hc
  have hlast : ∀ c ∈ s.toList.getLast?, isBlank c = false := by
    intro c hc
    rw [← htrim] at hc
    exact not_of_mem_getLast?_trimBy hc
  unfold strip lower
  rw [String.toList_ofList, trimBy_eq_self]
  · intro d hd
    cases hcs : s.toList with
    | nil =>
      rw [hcs] at hd
      cases hd
    | cons c cs =>
      rw [hcs, lowerAfter, List.head?_append_of_ne_nil _ (lowerBetween_ne_nil _ _ _)] at hd
      exact (of_mem_lowerBetween (List.mem_of_mem_head? hd)).2 (hhead c (hcs ▸ rfl))
  · intro d hd
    obtain ⟨c, hc, before, after, hmem⟩ := exists_of_mem_getLast?_lowerAfter hd
    exact (of_mem_lowerBetween hmem).2 (hlast c hc)

end Backoffice.Text
