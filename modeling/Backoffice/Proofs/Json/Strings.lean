import Mathlib
import Backoffice.Json.Reader
import Backoffice.Json.Writer

/-!
# Strings of JSON

A string is read back as it was written, in every style: `readString_writeString`.  A string is read piece
by piece (`IsPiece`), and what the writer makes of one character is read as pieces that join to this
character, whatever follows.
-/

namespace Backoffice.Json

/-! ### Pieces -/

/-- The text is read as one piece of a string, whatever follows. -/
def IsPiece (text : List Char) (p : Piece) : Prop :=
  ∀ rest, readPieces (text ++ rest) = (readPieces rest).map fun r => (p :: r.1, r.2)

/-- Four hexadecimal digits after a backslash and the letter for units are a unit. -/
theorem isPiece_unit {a b c d : Char} {n : ℕ} (h : unit? a b c d = some n) :
    IsPiece ['\\', 'u', a, b, c, d] (.unit n) := by
  intro rest
  simp only [List.cons_append, List.nil_append]
  rw [readPieces, h]
  cases readPieces rest <;> rfl

/-- A letter after a backslash is the character that it escapes. -/
theorem isPiece_escape {e c : Char} (h : escaped? e = some c) : IsPiece ['\\', e] (.char c) := by
  intro rest
  have hunit : e ≠ 'u' := by
    rintro rfl
    cases h
  rw [List.cons_append, List.singleton_append, readPieces]
  · rw [h]
    cases readPieces rest <;> rfl
  · intro _ _ _ _ _ hu
    exact absurd hu hunit

/-- A character that is no mark and no control character is itself. -/
theorem isPiece_self {c : Char} (hquote : c ≠ '"') (hslash : c ≠ '\\') (hcontrol : ¬ c.toNat < 0x20) :
    IsPiece [c] (.char c) := by
  intro rest
  rw [List.singleton_append, readPieces]
  · rw [if_neg hcontrol]
    cases readPieces rest <;> rfl
  · exact hquote
  · intro _ _ _ _ _ h
    exact absurd h hslash
  · intro _ _ h
    exact absurd h hslash

/-- A digit of a unit has the value that it was written for. -/
theorem hexValue?_unitDigit {n : ℕ} (h : n < 16) : Text.hexValue? (unitDigit n) = some n :=
  Text.hexValue?_hexDigit (.inl rfl) h

/-- The escape of a unit is the unit. -/
theorem isPiece_unitEscape {n : ℕ} (h : n < 0x10000) : IsPiece (unitEscape n) (.unit n) := by
  refine isPiece_unit ?_
  have hvalue : ((n / 4096 % 16 * 16 + n / 256 % 16) * 16 + n / 16 % 16) * 16 + n % 16 = n := by omega
  unfold unit?
  rw [hexValue?_unitDigit (by omega), hexValue?_unitDigit (by omega), hexValue?_unitDigit (by omega),
    hexValue?_unitDigit (by omega)]
  exact congrArg some hvalue

/-! ### Characters -/

/-- The text is read as pieces that join to the character. -/
def Spells (text : List Char) (c : Char) : Prop :=
  ∃ pieces, (∀ rest, readPieces (text ++ rest) =
      (readPieces rest).map fun r => (pieces ++ r.1, r.2)) ∧
    ∀ more, join? (pieces ++ more) = (join? more).map (c :: ·)

/-- A piece that is a character stands for the character. -/
theorem IsPiece.spells {text : List Char} {c : Char} (h : IsPiece text (.char c)) : Spells text c :=
  ⟨[.char c], h, fun _ => rfl⟩

/-- The escape of the code of a character in the 16-bit range. -/
theorem spells_unitEscape (c : Char) (h : c.toNat < 0x10000) : Spells (unitEscape c.toNat) c := by
  have hvalid : c.toNat < 0xD800 ∨ 0xDFFF < c.toNat ∧ c.toNat < 0x110000 := c.valid
  have hhigh : isHigh c.toNat = false := by
    unfold isHigh
    simp only [Bool.and_eq_false_iff, decide_eq_false_iff_not]
    omega
  have hlow : isLow c.toNat = false := by
    unfold isLow
    simp only [Bool.and_eq_false_iff, decide_eq_false_iff_not]
    omega
  refine ⟨[.unit c.toNat], isPiece_unitEscape h, fun more => ?_⟩
  rcases more with _ | ⟨_ | n, more⟩
  · simp [join?, hhigh, hlow]
  · simp [join?, hhigh, hlow]
  · simp [join?, hhigh, hlow]

/-- The escapes of the two units of a character beyond the 16-bit range. -/
theorem spells_pair (c : Char) (h : 0x10000 ≤ c.toNat) :
    Spells (unitEscape (0xD800 + (c.toNat - 0x10000) / 1024) ++
      unitEscape (0xDC00 + (c.toNat - 0x10000) % 1024)) c := by
  have hvalid : c.toNat < 0xD800 ∨ 0xDFFF < c.toNat ∧ c.toNat < 0x110000 := c.valid
  obtain ⟨m, hm⟩ : ∃ m, m = 0xD800 + (c.toNat - 0x10000) / 1024 := ⟨_, rfl⟩
  obtain ⟨n, hn⟩ : ∃ n, n = 0xDC00 + (c.toNat - 0x10000) % 1024 := ⟨_, rfl⟩
  have hhigh : isHigh m = true := by
    unfold isHigh
    simp only [Bool.and_eq_true, decide_eq_true_eq]
    omega
  have hlow : isLow n = true := by
    unfold isLow
    simp only [Bool.and_eq_true, decide_eq_true_eq]
    omega
  have hcode : 0x10000 + (m - 0xD800) * 1024 + (n - 0xDC00) = c.toNat := by omega
  rw [← hm, ← hn]
  refine ⟨[.unit m, .unit n], fun rest => ?_, fun more => ?_⟩
  · rw [List.append_assoc, isPiece_unitEscape (by omega), isPiece_unitEscape (by omega)]
    cases readPieces rest <;> rfl
  · simp only [List.cons_append, List.nil_append, join?, hhigh, hlow, if_true, hcode,
      Char.ofNat_toNat]

/-- What is written for a character stands for it. -/
theorem spells_writeChar (style : Style) (c : Char) : Spells (writeChar style c) c := by
  unfold writeChar
  split_ifs with hquote hslash hline hreturn htab hback hform hcontrol hcode
  · rw [hquote]
    exact (isPiece_escape rfl).spells
  · rw [hslash]
    exact (isPiece_escape rfl).spells
  · rw [hline]
    exact (isPiece_escape rfl).spells
  · rw [hreturn]
    exact (isPiece_escape rfl).spells
  · rw [htab]
    exact (isPiece_escape rfl).spells
  · rw [hback]
    exact (isPiece_escape rfl).spells
  · rw [hform]
    exact (isPiece_escape rfl).spells
  · exact spells_unitEscape c (by omega)
  · unfold codeEscape
    split_ifs with hrange
    · exact spells_unitEscape c hrange
    · exact spells_pair c (by omega)
  · exact (isPiece_self hquote hslash hcontrol).spells

/-! ### Strings -/

/-- What is written for some characters is read as pieces that join to them. -/
theorem exists_readPieces_write (style : Style) (cs rest : List Char) :
    ∃ pieces, readPieces (cs.flatMap (writeChar style) ++ '"' :: rest) = some (pieces, rest) ∧
      join? pieces = some cs := by
  induction cs with
  | nil => exact ⟨[], rfl, rfl⟩
  | cons c cs ih =>
    obtain ⟨pieces, hread, hjoin⟩ := ih
    obtain ⟨first, hfirst, hjoinFirst⟩ := spells_writeChar style c
    refine ⟨first ++ pieces, ?_, ?_⟩
    · rw [List.flatMap_cons, List.append_assoc, hfirst, hread]
      rfl
    · rw [hjoinFirst, hjoin]
      rfl

/-- A string is read back as it was written. -/
theorem readString_writeString (style : Style) (s : String) (rest : List Char) :
    readString (s.toList.flatMap (writeChar style) ++ '"' :: rest) = some (some s, rest) := by
  obtain ⟨pieces, hread, hjoin⟩ := exists_readPieces_write style s.toList rest
  unfold readString
  rw [hread]
  simp [hjoin]

end Backoffice.Json
