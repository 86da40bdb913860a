import Mathlib
import Backoffice.Proofs.Table.Rendering
import Backoffice.Proofs.Table.Search
import Backoffice.Directory.Lookup

/-!
# What a search finds

A search for a term is true of the texts with a part that is the term letter by letter
(`Node.truth_contains`).  The two cases of an ASCII letter count as one letter there, U+FFFE and U+FFFF
count as the replacement character, and every other character counts only as itself, those that mean
something in a pattern among them.  The search is unknown where there is no text.
-/

namespace Backoffice

namespace Node

variable {ρ : Type} {columns : ColumnMap ρ}

/-- A search for a term on a column is true of the rows whose text has the term as a part, where characters
that are read alike count as the same, and of no row with null.  The percent sign, the underscore and the
backslash are read alike only with themselves. -/
theorem truth_contains {field : String} {c : Column ρ} (hc : columns.lookup field = some c)
    {term : String} (hterm : '\x00' ∉ term.toList) :
    ∃ cond, condition columns (.test field .contains (.text term)) = .ok (some cond) ∧
      (∀ row, (∀ text, c.cell row = .text text → '\x00' ∉ text.toList →
          (cond.truth row = some true ↔ Text.HasPart Text.ReadAlike term text)) ∧
        (c.cell row = .null → cond.truth row = none)) ∧
      ∀ special ∈ ['%', '_', '\\'], ∀ other, Text.ReadAlike special other ↔ special = other := by
  refine ⟨.contains c term, condition_test_eq_ok_iff.mpr ⟨c, _, hc, rfl, rfl⟩, fun row => ⟨?_, ?_⟩, ?_⟩
  · intro text hcell htext
    rw [← Pattern.matchesText_containing_iff hterm htext, Condition.truth, hcell]
    exact Option.some_inj
  · intro hcell
    rw [Condition.truth, hcell]
    rfl
  · exact fun special hspecial other => Pattern.readAlike_mark_iff hspecial

/-- Of three statuses the search finds the one with the characters of the term in its name, and neither
the one with other characters in their places nor the one without a name. -/
theorem truth_contains_literally :
    UserStatus.columns.lookup "name" = some (.text (·.status)) ∧ '\x00' ∉ "0%_\\d".toList ∧
      ∃ cond, condition UserStatus.columns (.test "name" .contains (.text "0%_\\d")) = .ok (some cond) ∧
        cond.truth ⟨1, some "100%_\\DONE", none, none, none⟩ = some true ∧
        cond.truth ⟨2, some "100 % d", none, none, none⟩ ≠ some true ∧
        cond.truth ⟨3, none, none, none, none⟩ = none := by
  have hname : UserStatus.columns.lookup "name" = some (.text (·.status)) := rfl
  have hterm : '\x00' ∉ "0%_\\d".toList := by decide
  obtain ⟨cond, hcond, htruth, -⟩ := truth_contains hname hterm
  refine ⟨hname, hterm, cond, hcond, ?_, ?_, (htruth _).2 rfl⟩
  · exact ((htruth _).1 _ rfl (by decide)).mpr (by decide +kernel)
  · exact ((htruth _).1 _ rfl (by decide)).not.mpr (by decide +kernel)

/-- A search for the replacement character finds a name with U+FFFE in its place, although no part of the
name is the replacement character. -/
theorem truth_contains_replacement :
    ∃ cond, condition UserStatus.columns (.test "name" .contains (.text "\ufffd")) = .ok (some cond) ∧
      cond.truth ⟨1, some "x\ufffey", none, none, none⟩ = some true ∧
      ¬ Text.HasPart Text.SameLetter "\ufffd" "x\ufffey" :=
  ⟨.contains (.text (·.status)) "\ufffd", rfl, by decide +kernel, by decide +kernel⟩

end Node

end Backoffice
