import Mathlib
import Backoffice.Proofs.Table.Selection
import Backoffice.Proofs.Table.Search
import Backoffice.Proofs.Text.Digits
import Backoffice.Proofs.Text.Integers
import Backoffice.Proofs.Text.Strip
import Backoffice.Proofs.Calendar.Order

/-!
# What columns compare

Columns compare cells, but a cell stands for a value of the row.  The lemmas of this module say what a
comparison of cells means for the values: the order of a column is the order of its values with absent
ones in front, and a stored time is compared as the time that it is.
-/

namespace Backoffice

/-- An order of values, continued to values that may be absent: absence comes before every value. -/
def absentFirst {α : Type} (le : α → α → Prop) : Option α → Option α → Prop
  | none, _ => True
  | some _, none => False
  | some a, some b => le a b

instance {α : Type} (le : α → α → Prop) [DecidableRel le] : DecidableRel (absentFirst le)
  | none, _ => inferInstanceAs (Decidable True)
  | some _, none => inferInstanceAs (Decidable False)
  | some a, some b => inferInstanceAs (Decidable (le a b))

namespace Cell

/-- Cells of values that may be absent are ordered as the values are. -/
theorem ofOption_le_iff {α : Type} {cell : α → Cell} {le : α → α → Prop}
    (hnull : ∀ a, cell a ≠ .null) (hle : ∀ a b, (cell a).le (cell b) = true ↔ le a b)
    (x y : Option α) : (ofOption cell x).le (ofOption cell y) = true ↔ absentFirst le x y := by
  cases x with
  | none => simp [ofOption, absentFirst]
  | some a =>
    cases y with
    | none =>
      have hne := hnull a
      cases hc : cell a <;> simp_all [ofOption, absentFirst, Cell.le]
    | some b => exact hle a b

/-- Cells of integers are ordered as the integers are. -/
theorem ofOption_int_le_iff (x y : Option Int) :
    (ofOption Cell.int x).le (ofOption Cell.int y) = true ↔ absentFirst (· ≤ ·) x y :=
  ofOption_le_iff (fun _ => Cell.noConfusion) (fun _ _ => int_le_int) x y

/-- Cells of texts are ordered as the texts are. -/
theorem ofOption_text_le_iff (x y : Option String) :
    (ofOption Cell.text x).le (ofOption Cell.text y) = true ↔ absentFirst (· ≤ ·) x y :=
  ofOption_le_iff (fun _ => Cell.noConfusion) (fun _ _ => text_le_text) x y

/-- Cells of truth values are ordered as the truth values are, with false first. -/
theorem ofOption_bool_le_iff (x y : Option Bool) :
    (ofOption ofBool x).le (ofOption ofBool y) = true ↔ absentFirst (· ≤ ·) x y := by
  refine ofOption_le_iff (fun _ => Cell.noConfusion) (fun a b => ?_) x y
  cases a <;> cases b <;> decide

/-- Cells of times are ordered as the times are. -/
theorem ofOption_time_le_iff (x y : Option WallTime) :
    (ofOption ofWallTime x).le (ofOption ofWallTime y) = true ↔
      absentFirst (fun a b => a.micros ≤ b.micros) x y :=
  ofOption_le_iff (fun _ => Cell.noConfusion)
    (fun _ _ => text_le_text.trans WallTime.storedText_le_iff) x y

end Cell

namespace Affinity

/-- A digit is not blank. -/
theorem isNumeralBlank_of_isDigit {c : Char} (h : Text.isDigit c = true) : isNumeralBlank c = false := by
  rw [Text.isDigit_eq] at h
  unfold Char.isDigit at h
  have hlow : 48 ≤ c.toNat := UInt32.le_iff_toNat_le.mp (of_decide_eq_true (Bool.and_eq_true_iff.mp h).1)
  unfold isNumeralBlank
  rw [Bool.or_eq_false_iff, beq_eq_false_iff_ne, Bool.and_eq_false_iff]
  refine ⟨?_, Or.inr (by simpa using by omega)⟩
  rintro rfl
  exact absurd hlow (by decide)

/-- Digits that a hyphen follows are no numeral. -/
theorem numeral?_of_hyphen {s : String} {digits rest : List Char} (hs : s.toList = digits ++ '-' :: rest)
    (hne : digits ≠ []) (hdigits : ∀ c ∈ digits, Text.isDigit c = true)
    (hlast : ∀ c ∈ s.toList.getLast?, isNumeralBlank c = false) : numeral? s = Option.none := by
  have hhead : ∀ c ∈ s.toList.head?, Text.isDigit c = true := by
    intro c hc
    rw [hs, List.head?_append_of_ne_nil _ hne] at hc
    exact hdigits c (List.mem_of_mem_head? hc)
  have htrim : Text.trimBy isNumeralBlank s.toList = s.toList :=
    Text.trimBy_eq_self (fun c hc => isNumeralBlank_of_isDigit (hhead c hc)) hlast
  have hsign : Text.takeSign s.toList = (false, s.toList) :=
    Text.takeSign_append .absent fun c hc => Text.not_sign_of_isDigit (hhead c hc)
  have hhyphen : ∀ c ∈ ('-' :: rest).head?, Text.isDigit c = false := by
    rintro _ ⟨⟩
    rfl
  have hsplit := Text.takeWhile_digits hdigits hhyphen
  rw [← hs] at hsplit
  unfold numeral?
  rw [htrim, hsign]
  simp only [hsplit.1, hsplit.2]
  rw [if_pos]
  exact Or.inr (List.cons_ne_nil _ _)

/-- A stored time is no numeral: after the year comes a hyphen. -/
theorem numeral?_storedText (t : WallTime) : numeral? t.storedText = Option.none := by
  obtain ⟨rest, hrest⟩ : ∃ rest, t.storedText.toList =
      (Text.padded 4 t.date.year).toList ++ '-' :: (rest ++ (Text.padded 6 t.micro).toList) := by
    refine ⟨(Text.padded 2 t.date.month).toList ++ "-".toList ++
      (Text.padded 2 t.date.day).toList ++ " ".toList ++ t.clockText.toList ++ ".".toList, ?_⟩
    have hhyphen : "-".toList = ['-'] := rfl
    simp only [WallTime.storedText, Date.text, String.toList_append, List.append_assoc, hhyphen,
      List.cons_append, List.nil_append]
  refine numeral?_of_hyphen hrest (Text.padded_toList_ne_nil _ _)
    (fun _ hc => Text.isDigit_of_mem_padded hc) fun c hc => isNumeralBlank_of_isDigit ?_
  rw [hrest, List.getLast?_append_of_ne_nil _ (List.cons_ne_nil _ _),
    ← List.cons_append, List.getLast?_append_of_ne_nil _ (Text.padded_toList_ne_nil _ _)] at hc
  exact Text.isDigit_of_mem_padded (List.mem_of_getLast? hc)

end Affinity

namespace Column

variable {ρ : Type} {row : ρ}

/-- A column of integers has an integer exactly if the row does. -/
theorem meets_int_eq {read : ρ → Option Int} {n : Int} :
    (Column.int read).meets row .eq (.int n) = true ↔ read row = some n := by
  simp only [meets, Operand.parameter, Column.int, Affinity.apply, Bool.and_eq_true, bne_iff_ne,
    beq_iff_eq]
  cases read row <;> simp [Cell.ofOption]

/-- A mark is not set exactly if it is absent or false. -/
theorem meets_bool_isNot_true {read : ρ → Option Bool} :
    (Column.bool read).meets row .isNot (.bool true) = true ↔ read row ≠ some true := by
  simp only [meets, Operand.parameter, Column.bool, Affinity.apply, Parameter.ofBool, bne_iff_ne]
  cases read row with
  | none => simp [Cell.ofOption]
  | some b => cases b <;> simp [Cell.ofOption, Cell.ofBool]

/-- A moment is compared with a stored time as the text that would be stored for it. -/
theorem apply_moment {read : ρ → Option WallTime} (m : Moment) :
    (Column.time read).affinity.apply (Operand.moment m).parameter = .ofWallTime m.wall := by
  simp only [Operand.parameter, Column.time, Affinity.apply, Affinity.numeral?_storedText,
    Option.getD_none]
  rfl

/-- A stored time is not before a moment. -/
theorem meets_time_ge {read : ρ → Option WallTime} {m : Moment} :
    (Column.time read).meets row .ge (.moment m) = true ↔
      ∃ w, read row = some w ∧ m.wall.micros ≤ w.micros := by
  simp only [meets, apply_moment, Bool.and_eq_true, bne_iff_ne]
  simp only [Column.time, Cell.ofWallTime]
  cases read row <;> simp [Cell.ofOption, Cell.le, WallTime.storedText_le_iff, Cell.ofWallTime]

/-- A stored time is not after a moment. -/
theorem meets_time_le {read : ρ → Option WallTime} {m : Moment} :
    (Column.time read).meets row .le (.moment m) = true ↔
      ∃ w, read row = some w ∧ w.micros ≤ m.wall.micros := by
  simp only [meets, apply_moment, Bool.and_eq_true, bne_iff_ne]
  simp only [Column.time, Cell.ofWallTime]
  cases read row <;> simp [Cell.ofOption, Cell.le, WallTime.storedText_le_iff, Cell.ofWallTime]

/-- A stored time is before a moment. -/
theorem meets_time_lt {read : ρ → Option WallTime} {m : Moment} :
    (Column.time read).meets row .lt (.moment m) = true ↔
      ∃ w, read row = some w ∧ w.micros < m.wall.micros := by
  simp only [meets, apply_moment, Bool.and_eq_true, bne_iff_ne]
  simp only [Column.time, Cell.ofWallTime]
  cases read row with
  | none => simp [Cell.ofOption]
  | some w =>
    rw [Cell.lt, Bool.not_eq_true', ← Bool.not_eq_true, Cell.ofOption, Cell.ofWallTime,
      Cell.text_le_text, WallTime.storedText_le_iff, not_le]
    simp

/-- A column of texts contains a term exactly if the row has a text with the term as a part. -/
theorem meets_contains (a : Affinity) (read : ρ → Option String) {term : String}
    (hterm : '\x00' ∉ term.toList) (hread : ∀ s ∈ read row, '\x00' ∉ s.toList) :
    (Column.mk a fun r => .ofOption .text (read r)).meets row .contains (.text term) = true ↔
      ∃ s, read row = some s ∧ Text.HasPart Text.ReadAlike term s := by
  simp only [meets, Operand.term]
  cases hr : read row with
  | none => simp [Cell.ofOption, Cell.text?]
  | some s =>
    simp only [Cell.ofOption, Cell.text?, Option.any_some, Option.some.injEq, exists_eq_left']
    exact Pattern.matchesText_containing_iff hterm (hread s hr)

end Column

end Backoffice
