import Mathlib
import Backoffice.Proofs.Text.Split
import Backoffice.Table.Pattern

/-!
# Search by pattern

The pattern that a search term is turned into describes exactly the texts with a part that is the term letter
by letter (`Pattern.matchesText_containing_iff`).  The two cases of an ASCII letter count as one letter
there, and the characters that are read as the replacement character count as one.  Characters that mean
something in a pattern lose their meaning because the term is escaped.
-/

namespace Backoffice

/-! ### Parts of a text -/

namespace Text

/-- The characters are the same, or they are the two cases of one ASCII letter. -/
def SameLetter (a b : Char) : Prop :=
  a = b ∨ ('A' ≤ a ∧ a ≤ 'Z' ∧ b.toNat = a.toNat + 32) ∨ ('A' ≤ b ∧ b ≤ 'Z' ∧ a.toNat = b.toNat + 32)

instance : DecidableRel SameLetter := fun a b =>
  inferInstanceAs (Decidable (a = b ∨ ('A' ≤ a ∧ a ≤ 'Z' ∧ b.toNat = a.toNat + 32) ∨
    ('A' ≤ b ∧ b ≤ 'Z' ∧ a.toNat = b.toNat + 32)))

/-- The replacement character and the two characters that a search does not tell from it. -/
def replacements : List Char :=
  ['\ufffd', '\ufffe', '\uffff']

/-- The characters are the same letter, or a search does not tell them apart. -/
def ReadAlike (a b : Char) : Prop :=
  SameLetter a b ∨ (a ∈ replacements ∧ b ∈ replacements)

/-- Some part of the text is the term, where `same` says which characters count as the same. -/
def HasPart (same : Char → Char → Prop) (term text : String) : Prop :=
  ∃ before part after : List Char, text.toList = before ++ part ++ after ∧
    List.Forall₂ same term.toList part

/-- Where characters count as the same if `f` makes the same of them, the parts are those of the
characters that `f` makes. -/
theorem hasPart_iff_isInfix {same : Char → Char → Prop} {f : Char → Char}
    (h : ∀ a b, f a = f b ↔ same a b) {term text : String} :
    HasPart same term text ↔ term.toList.map f <:+: text.toList.map f := by
  have hpart : ∀ part : List Char, part.map f = term.toList.map f ↔ List.Forall₂ same term.toList part := by
    intro part
    rw [eq_comm, ← List.forall₂_eq_eq_eq, List.forall₂_map_left_iff, List.forall₂_map_right_iff]
    simp only [h]
  unfold HasPart
  constructor
  · rintro ⟨before, part, after, htext, hsame⟩
    refine ⟨before.map f, after.map f, ?_⟩
    rw [htext, List.map_append, List.map_append, (hpart part).mpr hsame]
  · rintro ⟨before, after, heq⟩
    obtain ⟨front, after', htext, hfront, -⟩ := List.map_eq_append_iff.mp heq.symm
    obtain ⟨before', part, hfront', -, hmapped⟩ := List.map_eq_append_iff.mp hfront
    exact ⟨before', part, after', by rw [htext, hfront'], (hpart part).mp hmapped⟩

/-- The ASCII capitals by their codes. -/
theorem isCapital_iff (c : Char) : ('A' ≤ c ∧ c ≤ 'Z') ↔ 65 ≤ c.toNat ∧ c.toNat ≤ 90 :=
  and_congr UInt32.le_iff_toNat_le UInt32.le_iff_toNat_le

/-- The code of a character in lower case. -/
theorem toNat_asciiLowerChar (c : Char) : (asciiLowerChar c).toNat =
    if 65 ≤ c.toNat ∧ c.toNat ≤ 90 then c.toNat + 32 else c.toNat := by
  unfold asciiLowerChar
  simp only [isCapital_iff]
  split
  · rw [Char.toNat_ofNat, if_pos (Or.inl (by omega))]
  · rfl

/-- Characters are the same letter exactly if they are the same in lower case. -/
theorem asciiLowerChar_eq_iff {a b : Char} : asciiLowerChar a = asciiLowerChar b ↔ SameLetter a b := by
  unfold SameLetter
  rw [← and_assoc, ← and_assoc, isCapital_iff, isCapital_iff, ← Char.toNat_inj, ← Char.toNat_inj,
    toNat_asciiLowerChar, toNat_asciiLowerChar]
  split <;> split <;> omega

/-- A character that is no ASCII letter is the same letter only as itself. -/
theorem sameLetter_iff_eq {a b : Char} (h : a.toNat < 65 ∨ 90 < a.toNat ∧ a.toNat < 97 ∨ 122 < a.toNat) :
    SameLetter a b ↔ a = b := by
  unfold SameLetter
  rw [← and_assoc, ← and_assoc, isCapital_iff, isCapital_iff, ← Char.toNat_inj]
  omega

/-- The same letter is the same letter in either order. -/
theorem sameLetter_comm {a b : Char} : SameLetter a b ↔ SameLetter b a := by
  rw [← asciiLowerChar_eq_iff, ← asciiLowerChar_eq_iff, eq_comm]

instance (term text : String) : Decidable (HasPart SameLetter term text) :=
  decidable_of_iff _ (hasPart_iff_isInfix fun _ _ => asciiLowerChar_eq_iff).symm

end Text

namespace Pattern

/-! ### Characters as they are read -/

/-- A character that is read as another is read as the replacement character. -/
theorem readAs_of_mem {c : Char} (h : c ∈ Text.replacements) : readAs c = '\ufffd' := by
  fin_cases h <;> rfl

/-- Any other character is read as itself. -/
theorem readAs_of_notMem {c : Char} (h : c ∉ Text.replacements) : readAs c = c := by
  simp only [Text.replacements, List.mem_cons, List.not_mem_nil, or_false, not_or] at h
  exact if_neg (not_or.mpr h.2)

/-- What is read alike is the same letter once it is read. -/
theorem sameLetter_readAs_iff {a b : Char} :
    Text.SameLetter (readAs a) (readAs b) ↔ Text.ReadAlike a b := by
  -- No replacement is a letter, so that such a character is the same letter only as itself.
  have hreplacement : ∀ c ∈ Text.replacements, 122 < c.toNat := by
    intro c hc
    fin_cases hc <;> decide
  have hself : '\ufffd' ∈ Text.replacements := by decide
  have hmixed : ∀ {c d : Char}, c ∈ Text.replacements → d ∉ Text.replacements → ¬ Text.SameLetter c d := by
    intro c d hc hd hsame
    rw [Text.sameLetter_iff_eq (.inr (.inr (hreplacement c hc)))] at hsame
    exact hd (hsame ▸ hc)
  unfold Text.ReadAlike
  by_cases ha : a ∈ Text.replacements <;> by_cases hb : b ∈ Text.replacements
  · rw [readAs_of_mem ha, readAs_of_mem hb]
    exact iff_of_true (.inl rfl) (.inr ⟨ha, hb⟩)
  · rw [readAs_of_mem ha, readAs_of_notMem hb]
    exact iff_of_false (hmixed hself hb) (not_or.mpr ⟨hmixed ha hb, fun h => hb h.2⟩)
  · rw [readAs_of_notMem ha, readAs_of_mem hb, Text.sameLetter_comm]
    refine iff_of_false (hmixed hself ha) (not_or.mpr ⟨?_, fun h => ha h.1⟩)
    rw [Text.sameLetter_comm]
    exact hmixed hb ha
  · rw [readAs_of_notMem ha, readAs_of_notMem hb, or_iff_left fun h => ha h.1]

/-- Characters are read alike exactly if they are the same in lower case once they are read. -/
theorem asciiLowerChar_readAs_eq_iff {a b : Char} :
    Text.asciiLowerChar (readAs a) = Text.asciiLowerChar (readAs b) ↔ Text.ReadAlike a b :=
  Text.asciiLowerChar_eq_iff.trans sameLetter_readAs_iff

instance (term text : String) : Decidable (Text.HasPart Text.ReadAlike term text) :=
  decidable_of_iff _ (Text.hasPart_iff_isInfix fun _ _ => asciiLowerChar_readAs_eq_iff).symm

/-- A mark of patterns is read alike only with itself. -/
theorem readAlike_mark_iff {mark other : Char} (hmark : mark ∈ ['%', '_', '\\']) :
    Text.ReadAlike mark other ↔ mark = other := by
  have hplain : mark ∉ Text.replacements ∧
      (mark.toNat < 65 ∨ 90 < mark.toNat ∧ mark.toNat < 97 ∨ 122 < mark.toNat) := by
    fin_cases hmark <;> decide
  obtain ⟨hmem, hcode⟩ := hplain
  unfold Text.ReadAlike
  rw [or_iff_left fun h => hmem h.1, Text.sameLetter_iff_eq hcode]

/-- A character is read as a mark of patterns only if it is this mark. -/
theorem readAs_eq_mark_iff {c mark : Char} (hmark : mark = '\\' ∨ mark = '%' ∨ mark = '_') :
    readAs c = mark ↔ c = mark := by
  unfold readAs
  split
  · rename_i h
    rcases h with rfl | rfl <;> rcases hmark with rfl | rfl | rfl <;> decide
  · rfl

/-- A character is read as null only if it is null. -/
theorem readAs_eq_null_iff {c : Char} : readAs c = '\x00' ↔ c = '\x00' := by
  unfold readAs
  split
  · rename_i h
    rcases h with rfl | rfl <;> decide
  · rfl

/-! ### Patterns -/

/-- Any text at the end is described by a percent sign. -/
theorem fits_anyText (cs : List Char) : fits [.anyText] cs = true := by
  rw [fits, Text.someTail_iff]
  exact ⟨[], List.nil_suffix, rfl⟩

/-- Literal parts followed by a percent sign describe the texts that begin with them. -/
theorem fits_literals_iff {term cs : List Char} :
    fits (term.map Part.literal ++ [.anyText]) cs = true ↔
      term.map Text.asciiLowerChar <+: cs.map Text.asciiLowerChar := by
  induction term generalizing cs with
  | nil => simp [fits_anyText]
  | cons a term ih =>
    cases cs with
    | nil => simp [fits]
    | cons c cs =>
      simp only [List.map_cons, List.cons_append, fits, Bool.and_eq_true, beq_iff_eq, ih,
        List.cons_prefix_cons]

/-- Escaping one kind of character after the other escapes each of them once. -/
theorem toList_escape (s : String) : (escape s).toList =
    s.toList.flatMap fun c => if c = '\\' ∨ c = '%' ∨ c = '_' then ['\\', c] else [c] := by
  unfold escape escapeChar
  rw [String.toList_ofList, List.flatMap_assoc, List.flatMap_assoc]
  refine List.flatMap_congr fun c _ => ?_
  by_cases hback : c = '\\'
  · subst hback
    rfl
  by_cases hpercent : c = '%'
  · subst hpercent
    rfl
  by_cases hline : c = '_'
  · subst hline
    rfl
  simp [hback, hpercent, hline]

/-- Escaped characters are read as literal ones. -/
theorem parts?_escaped (term rest : List Char) :
    parts? ((term.flatMap fun c => if c = '\\' ∨ c = '%' ∨ c = '_' then ['\\', c] else [c]) ++ rest) =
      (parts? rest).map (term.map Part.literal ++ ·) := by
  induction term with
  | nil => simp
  | cons a term ih =>
    simp only [List.flatMap_cons, List.map_cons, List.append_assoc]
    split
    · simp only [List.cons_append, List.nil_append, parts?, ih, Option.map_map]
      rfl
    · rename_i h
      rw [not_or, not_or] at h
      simp only [List.cons_append, List.nil_append]
      rw [parts?]
      · rw [ih, Option.map_map]
        rfl
      all_goals simp_all

/-- A text without null characters is seen as it is read, as a whole. -/
theorem seen_eq_toList {s : String} (h : '\x00' ∉ s.toList) : seen s = (read s).toList := by
  unfold seen
  rw [List.takeWhile_eq_self_iff, read, String.toList_map]
  simp only [List.forall_mem_map, bne_iff_ne, ne_eq, readAs_eq_null_iff]
  rintro c hc rfl
  exact h hc

/-- The pattern of a term has no null characters if the term has none. -/
theorem null_notMem_containing {term : String} (h : '\x00' ∉ term.toList) :
    '\x00' ∉ (containing term).toList := by
  simp only [containing, String.toList_append, toList_escape, List.mem_append, List.mem_flatMap, not_or,
    not_exists, not_and]
  refine ⟨⟨by decide, ?_⟩, by decide⟩
  intro c hc
  split
  · rintro hmem
    rcases List.mem_cons.mp hmem with hmem | hmem
    · exact absurd hmem (by decide)
    · rw [List.mem_singleton] at hmem
      exact h (hmem ▸ hc)
  · intro hmem
    rw [List.mem_singleton] at hmem
    exact h (hmem ▸ hc)

/-- The pattern of a term is read as the pattern of the term that is read. -/
theorem read_containing (term : String) : read (containing term) = containing (read term) := by
  have hpercent : "%".toList.map readAs = "%".toList := by decide
  have hback : readAs '\\' = '\\' := by decide
  rw [← String.toList_inj]
  simp only [read, containing, String.toList_map, String.toList_append, toList_escape, List.map_append,
    List.map_flatMap, List.flatMap_map, hpercent]
  refine congrArg (_ ++ · ++ _) (List.flatMap_congr fun c _ => ?_)
  simp only [readAs_eq_mark_iff (.inl rfl), readAs_eq_mark_iff (.inr (.inl rfl)),
    readAs_eq_mark_iff (.inr (.inr rfl))]
  split
  · rw [List.map_cons, List.map_singleton, hback]
  · rfl

/-- The pattern of a term describes the texts with the term as a part. -/
theorem matchesText_containing_iff {term text : String} (hterm : '\x00' ∉ term.toList)
    (htext : '\x00' ∉ text.toList) :
    matchesText (containing term) text = true ↔ Text.HasPart Text.ReadAlike term text := by
  have hread : ∀ s : String, (read s).toList.map Text.asciiLowerChar =
      s.toList.map fun c => Text.asciiLowerChar (readAs c) := by
    intro s
    rw [read, String.toList_map, List.map_map]
    rfl
  have hparts : parts? (containing (read term)).toList =
      some (.anyText :: ((read term).toList.map Part.literal ++ [.anyText])) := by
    have hpercent : "%".toList = ['%'] := rfl
    simp only [containing, String.toList_append, toList_escape, hpercent, List.cons_append,
      List.nil_append]
    rw [parts?, parts?_escaped]
    rfl
  unfold matchesText
  rw [seen_eq_toList (null_notMem_containing hterm), read_containing, hparts, seen_eq_toList htext]
  rw [Text.hasPart_iff_isInfix fun _ _ => asciiLowerChar_readAs_eq_iff, ← hread, ← hread]
  simp only [fits, Text.someTail_iff]
  constructor
  · rintro ⟨tail, htail, hfits⟩
    rw [fits_literals_iff] at hfits
    exact hfits.isInfix.trans (htail.map _).isInfix
  · rintro ⟨before, after, heq⟩
    refine ⟨(read text).toList.drop before.length, List.drop_suffix _ _, ?_⟩
    rw [fits_literals_iff, List.map_drop, ← heq, List.append_assoc, List.drop_left]
    exact List.prefix_append _ _

end Pattern

end Backoffice
