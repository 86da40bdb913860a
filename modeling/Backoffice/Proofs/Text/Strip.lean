import Mathlib
import Backoffice.Text.Blank

/-!
# Stripped texts

What is left of a text when the blanks at its ends are taken away has no blanks at its ends, so
stripping twice is stripping once.  A text consists of what is left between blanks, and what stands between
blanks is left (`exists_append_trimBy`, `trimBy_append`).
-/

namespace Backoffice.Text

variable {p : Char → Bool}

/-- The first character that is left is not of the class. -/
theorem not_of_mem_head?_trimBy {cs : List Char} {c : Char} (h : c ∈ (trimBy p cs).head?) :
    p c = false := by
  have hle : trimBy p cs <+: cs.dropWhile p := by
    unfold trimBy
    rw [← List.reverse_suffix, List.reverse_reverse]
    exact List.dropWhile_suffix p
  obtain ⟨rest, hrest⟩ := hle
  have hc : c ∈ (cs.dropWhile p).head? := by
    rw [← hrest, List.head?_append, Option.mem_def.mp h]
    rfl
  have hnot := List.head?_dropWhile_not p cs
  rw [Option.mem_def.mp hc] at hnot
  exact hnot

/-- The last character that is left is not of the class. -/
theorem not_of_mem_getLast?_trimBy {cs : List Char} {c : Char} (h : c ∈ (trimBy p cs).getLast?) :
    p c = false := by
  unfold trimBy at h
  rw [List.getLast?_reverse] at h
  have hnot := List.head?_dropWhile_not p (cs.dropWhile p).reverse
  rw [Option.mem_def.mp h] at hnot
  exact hnot

/-- A text consists of what is left when it is trimmed, between characters of the class. -/
theorem exists_append_trimBy (p : Char → Bool) (cs : List Char) : ∃ before after,
    cs = before ++ trimBy p cs ++ after ∧ (∀ c ∈ before, p c = true) ∧ ∀ c ∈ after, p c = true := by
  have hfront : cs = cs.takeWhile p ++ cs.dropWhile p := List.takeWhile_append_dropWhile.symm
  have hback : cs.dropWhile p = trimBy p cs ++ ((cs.dropWhile p).reverse.takeWhile p).reverse := by
    unfold trimBy
    rw [← List.reverse_append, List.takeWhile_append_dropWhile, List.reverse_reverse]
  refine ⟨cs.takeWhile p, ((cs.dropWhile p).reverse.takeWhile p).reverse, ?_, ?_, ?_⟩
  · rw [List.append_assoc, ← hback]
    exact hfront
  · exact fun c hc => List.mem_takeWhile_imp hc
  · exact fun c hc => List.mem_takeWhile_imp (List.mem_reverse.mp hc)

/-- What stands between characters of the class, without being such at its ends, is left. -/
theorem trimBy_append {before cs after : List Char} (hbefore : ∀ c ∈ before, p c = true)
    (hafter : ∀ c ∈ after, p c = true) (hhead : ∀ c ∈ cs.head?, p c = false)
    (hlast : ∀ c ∈ cs.getLast?, p c = false) : trimBy p (before ++ cs ++ after) = cs := by
  have hdrop : ∀ {ds es : List Char}, (∀ c ∈ ds, p c = true) → (∀ c ∈ es.head?, p c = false) →
      (ds ++ es).dropWhile p = es := by
    intro ds es hds hes
    rw [List.dropWhile_append_of_pos hds]
    cases es with
    | nil => rfl
    | cons e es =>
      have he : p e = false := hes e rfl
      exact List.dropWhile_cons_of_neg (by simp [he])
  have hback : (cs ++ after).reverse.dropWhile p = cs.reverse := by
    rw [List.reverse_append, hdrop]
    · exact fun c hc => hafter c (List.mem_reverse.mp hc)
    · rw [List.head?_reverse]
      exact hlast
  -- If nothing stands between them, the characters in front run on into those behind.
  cases cs with
  | nil =>
    have hall : ∀ c ∈ before ++ after, p c = true := fun c hc =>
      (List.mem_append.mp hc).elim (hbefore c) (hafter c)
    unfold trimBy
    rw [List.append_nil, List.dropWhile_eq_nil_iff.mpr hall]
    rfl
  | cons c cs =>
    have hfront : (before ++ (c :: cs ++ after)).dropWhile p = c :: cs ++ after := hdrop hbefore hhead
    unfold trimBy
    rw [List.append_assoc, hfront, hback, List.reverse_reverse]

/-- Nothing is taken from a text whose ends are not of the class. -/
theorem trimBy_eq_self {cs : List Char} (hhead : ∀ c ∈ cs.head?, p c = false)
    (hlast : ∀ c ∈ cs.getLast?, p c = false) : trimBy p cs = cs := by
  have hbare : trimBy p ([] ++ cs ++ []) = cs := trimBy_append (by simp) (by simp) hhead hlast
  rwa [List.nil_append, List.append_nil] at hbare

/-- Trimming twice is trimming once. -/
theorem trimBy_trimBy (cs : List Char) : trimBy p (trimBy p cs) = trimBy p cs :=
  trimBy_eq_self (fun _ h => not_of_mem_head?_trimBy h) (fun _ h => not_of_mem_getLast?_trimBy h)

/-- The characters between the control characters of ASCII are no blanks. -/
theorem isBlank_of_visible {c : Char} (hlow : 0x20 < c.toNat) (hhigh : c.toNat < 0x7F) :
    isBlank c = false := by
  unfold isBlank
  simp only [Bool.or_eq_false_iff, Bool.and_eq_false_iff, decide_eq_false_iff_not, beq_eq_false_iff_ne]
  omega

/-- A text without blanks stays as it is. -/
theorem strip_eq_self {s : String} (h : ∀ c ∈ s.toList, isBlank c = false) : strip s = s := by
  unfold strip
  rw [trimBy_eq_self (fun c hc => h c (List.mem_of_mem_head? hc))
    (fun c hc => h c (List.mem_of_mem_getLast? hc)), String.ofList_toList]

/-- What is left of a text was in it. -/
theorem mem_of_mem_trimBy {cs : List Char} {c : Char} (h : c ∈ trimBy p cs) : c ∈ cs := by
  unfold trimBy at h
  have hend := (List.dropWhile_suffix p).subset (List.mem_reverse.mp h)
  exact (List.dropWhile_suffix p).subset (List.mem_reverse.mp hend)

/-- What is left of a stripped text was in it. -/
theorem mem_of_mem_strip {s : String} {c : Char} (h : c ∈ (strip s).toList) : c ∈ s.toList := by
  unfold strip at h
  rw [String.toList_ofList] at h
  exact mem_of_mem_trimBy h

/-- Stripping twice is stripping once. -/
theorem strip_strip (s : String) : strip (strip s) = strip s := by
  unfold strip
  rw [String.toList_ofList, trimBy_trimBy]

/-- A stripped text that is not empty is what it is stripped to. -/
theorem nonBlank?_some_of_strip {s : String} (h : strip s = s) (hne : s ≠ "") :
    nonBlank? (some s) = some s := by
  unfold nonBlank? orEmpty
  rw [Option.getD_some, h]
  exact if_neg hne

/-- A text that is left after stripping is stripped and not empty. -/
theorem strip_of_nonBlank? {raw : Option String} {s : String} (h : nonBlank? raw = some s) :
    strip s = s ∧ s ≠ "" := by
  unfold nonBlank? at h
  by_cases hempty : strip (orEmpty raw) = ""
  · rw [if_pos hempty] at h
    cases h
  · rw [if_neg hempty] at h
    cases h
    exact ⟨strip_strip _, hempty⟩

/-- Looking for what is left after stripping twice is looking once. -/
theorem nonBlank?_nonBlank? (raw : Option String) : nonBlank? (nonBlank? raw) = nonBlank? raw := by
  cases h : nonBlank? raw with
  | none => decide
  | some s =>
    obtain ⟨hstrip, hne⟩ := strip_of_nonBlank? h
    exact nonBlank?_some_of_strip hstrip hne

/-! ### Padded words -/

/-- The text is the word between blanks. -/
def Pads (word text : String) : Prop :=
  ∃ before after, text.toList = before ++ word.toList ++ after ∧ (∀ c ∈ before, isBlank c = true) ∧
    ∀ c ∈ after, isBlank c = true

/-- A word without blanks is what is left of it between blanks. -/
theorem Pads.nonBlank? {word text : String} (h : Pads word text) (hne : word ≠ "")
    (hword : ∀ c ∈ word.toList, isBlank c = false) : nonBlank? (some text) = some word := by
  obtain ⟨before, after, htext, hbefore, hafter⟩ := h
  have hstrip : strip text = word := by
    unfold strip
    rw [htext, trimBy_append hbefore hafter (fun c hc => hword c (List.mem_of_mem_head? hc))
      (fun c hc => hword c (List.mem_of_mem_getLast? hc)), String.ofList_toList]
  unfold Text.nonBlank? orEmpty
  rw [Option.getD_some, hstrip]
  exact if_neg hne

/-! ### Texts between spaces -/

/-- The core of a text is what is left of it without the spaces at its ends. -/
structure IsCoreOf (core text : String) : Prop where
  spaced : ∃ m n, text.toList = List.replicate m ' ' ++ core.toList ++ List.replicate n ' '
  head : ' ' ∉ core.toList.head?
  last : ' ' ∉ core.toList.getLast?

/-- The core of a text is the text trimmed by spaces, and nothing else is. -/
theorem isCoreOf_iff {core text : String} :
    IsCoreOf core text ↔ core = String.ofList (trimBy (· == ' ') text.toList) := by
  constructor
  · rintro ⟨⟨m, n, htext⟩, hhead, hlast⟩
    have hspaces : ∀ {k : ℕ}, ∀ c ∈ List.replicate k ' ', (c == ' ') = true := fun c hc =>
      beq_iff_eq.mpr (List.eq_of_mem_replicate hc)
    have hends : ∀ {o : Option Char}, ' ' ∉ o → ∀ c ∈ o, (c == ' ') = false := by
      intro o ho c hc
      exact beq_eq_false_iff_ne.mpr (ne_of_mem_of_not_mem hc ho)
    rw [htext, trimBy_append hspaces hspaces (hends hhead) (hends hlast), String.ofList_toList]
  · rintro rfl
    obtain ⟨before, after, htext, hbefore, hafter⟩ := exists_append_trimBy (· == ' ') text.toList
    have hreplicate : ∀ {cs : List Char}, (∀ c ∈ cs, (c == ' ') = true) →
        cs = List.replicate cs.length ' ' := fun h =>
      List.eq_replicate_iff.mpr ⟨rfl, fun c hc => beq_iff_eq.mp (h c hc)⟩
    refine ⟨⟨before.length, after.length, ?_⟩, fun h => ?_, fun h => ?_⟩
    · rw [← hreplicate hbefore, ← hreplicate hafter, String.toList_ofList]
      exact htext
    · rw [String.toList_ofList] at h
      exact absurd (not_of_mem_head?_trimBy h) (by simp)
    · rw [String.toList_ofList] at h
      exact absurd (not_of_mem_getLast?_trimBy h) (by simp)

/-- Every text has a core. -/
theorem exists_isCoreOf (text : String) : ∃ core, IsCoreOf core text :=
  ⟨_, isCoreOf_iff.mpr rfl⟩

/-- With more spaces around it a text has the same core. -/
theorem IsCoreOf.pad {core text padded : String} (h : IsCoreOf core text) {m n : ℕ}
    (hpadded : padded.toList = List.replicate m ' ' ++ text.toList ++ List.replicate n ' ') :
    IsCoreOf core padded := by
  obtain ⟨k, l, htext⟩ := h.spaced
  refine ⟨⟨m + k, l + n, ?_⟩, h.head, h.last⟩
  rw [hpadded, htext, List.replicate_add, List.replicate_add]
  simp only [List.append_assoc]

end Backoffice.Text
