import Mathlib
import Backoffice.Proofs.Json.Fronts

/-!
# Texts of JSON values

Which characters are a text of a value.  Whatever the reader reads stands at the front of the text and is
read from there again, with any number of steps that suffices and whatever can follow a value
(`readsTexts`); so a text stands for a value exactly if it is one of the value between blanks,
`parse?_eq_some_iff`.  An array is told by its items and the commas between them, and therefore two arrays
can be written in a row: `exists_parse?_append`.
-/

namespace Backoffice.Json

/-! ### Values -/

/-- Nothing but blanks. -/
def AreBlank (cs : List Char) : Prop :=
  ∀ c ∈ cs, isBlank c = true

/-- A value can begin with the character: it is no blank and does not close an array. -/
def BeginsValue (c : Char) : Prop :=
  isBlank c = false ∧ c ≠ ']'

instance : DecidablePred BeginsValue := fun c => inferInstanceAs (Decidable (isBlank c = false ∧ c ≠ ']'))

/-- The characters are a text of the value: they are read as it, whatever can follow a value. -/
structure IsTextOf (v : Json) (cs : List Char) : Prop where
  begins : ∃ c ∈ cs.head?, BeginsValue c
  reads : ∀ fuel rest, cs.length ≤ fuel → EndsValue rest → readValue fuel (cs ++ rest) = some (v, rest)

/-- Texts of the values with commas between them, and with blanks around the commas and behind the last. -/
inductive AreItemsOf : List Json → List Char → Prop
  | last {v : Json} {cs after : List Char} (text : IsTextOf v cs) (blank : AreBlank after) :
      AreItemsOf [v] (cs ++ after)
  | more {v : Json} {vs : List Json} {cs after before ds : List Char} (text : IsTextOf v cs)
      (blank_after : AreBlank after) (blank_before : AreBlank before) (items : AreItemsOf vs ds) :
      AreItemsOf (v :: vs) (cs ++ (after ++ ',' :: (before ++ ds)))

/-- What stands between the brackets of an array of the values. -/
inductive IsBodyOf : List Json → List Char → Prop
  | empty {cs : List Char} (blank : AreBlank cs) : IsBodyOf [] cs
  | items {vs : List Json} {before cs : List Char} (blank : AreBlank before) (items : AreItemsOf vs cs) :
      IsBodyOf vs (before ++ cs)

/-- There are four blanks. -/
theorem eq_of_isBlank {c : Char} (h : isBlank c = true) : c = ' ' ∨ c = '\t' ∨ c = '\n' ∨ c = '\r' := by
  unfold isBlank at h
  simpa only [Bool.or_eq_true, beq_iff_eq, or_assoc] using h

/-- What is passed over are blanks. -/
theorem exists_blanks_of_skip {cs ds : List Char} (h : skip cs = ds) :
    ∃ blanks, cs = blanks ++ ds ∧ AreBlank blanks := by
  refine ⟨cs.takeWhile isBlank, ?_, fun c hc => List.mem_takeWhile_imp hc⟩
  rw [← h]
  exact List.takeWhile_append_dropWhile.symm

/-- Behind blanks a mark is found. -/
theorem skip_mark {blanks : List Char} (h : AreBlank blanks) {mark : Char} (hmark : isBlank mark = false)
    (rest : List Char) : skip (blanks ++ mark :: rest) = mark :: rest := by
  refine skip_append h ?_
  rintro c ⟨⟩
  exact hmark

/-- After a value there may be blanks and then a mark. -/
theorem endsValue_mark {blanks : List Char} (h : AreBlank blanks) {mark : Char}
    (hmark : mark = ',' ∨ mark = ']' ∨ mark = '\x7d') (rest : List Char) :
    EndsValue (blanks ++ mark :: rest) := by
  intro c hc
  cases blanks with
  | nil =>
    cases hc
    rcases hmark with rfl | rfl | rfl <;> decide
  | cons b blanks =>
    cases hc
    rcases eq_of_isBlank (h c List.mem_cons_self) with rfl | rfl | rfl | rfl <;> decide

/-- Blanks before a value are passed over. -/
theorem IsTextOf.skip {v : Json} {cs blanks : List Char} (h : IsTextOf v cs) (hblanks : AreBlank blanks)
    (rest : List Char) : skip (blanks ++ (cs ++ rest)) = cs ++ rest := by
  obtain ⟨c, hc, hbegins⟩ := h.begins
  obtain ⟨cs, rfl⟩ := List.head?_eq_some_iff.mp hc
  exact skip_mark hblanks hbegins.1 _

/-- Items begin as a value does. -/
theorem AreItemsOf.begins {vs : List Json} {cs : List Char} (h : AreItemsOf vs cs) :
    ∃ c ∈ cs.head?, BeginsValue c := by
  have hfront : ∀ {v : Json} {ds : List Char} (rest : List Char), IsTextOf v ds →
      ∃ c ∈ (ds ++ rest).head?, BeginsValue c := by
    intro v ds rest htext
    obtain ⟨c, hc, hbegins⟩ := htext.begins
    obtain ⟨ds, rfl⟩ := List.head?_eq_some_iff.mp hc
    exact ⟨c, rfl, hbegins⟩
  cases h with
  | last text _ => exact hfront _ text
  | more text _ _ _ => exact hfront _ text

/-- Items are read up to the bracket that closes the array. -/
theorem AreItemsOf.readItems_eq {vs : List Json} {cs : List Char} (h : AreItemsOf vs cs) (rest : List Char)
    {fuel : ℕ} (hfuel : cs.length < fuel) : readItems fuel (cs ++ ']' :: rest) = some (vs, rest) := by
  induction h generalizing fuel with
  | @last v cs after htext hafter =>
    obtain ⟨fuel, rfl⟩ : ∃ n, fuel = n + 1 := ⟨fuel - 1, by omega⟩
    rw [List.length_append] at hfuel
    rw [List.append_assoc, readItems, htext.reads fuel _ (by omega) (endsValue_mark hafter (by simp) rest)]
    simp only [Option.bind_eq_bind, Option.bind_some, skip_mark hafter (show isBlank ']' = false from rfl)]
    rfl
  | @more v vs cs after before ds htext hafter hbefore hitems ih =>
    obtain ⟨fuel, rfl⟩ : ∃ n, fuel = n + 1 := ⟨fuel - 1, by omega⟩
    simp only [List.length_append, List.length_cons] at hfuel
    obtain ⟨c, hc, hbegins⟩ := hitems.begins
    have hskip : skip (before ++ (ds ++ ']' :: rest)) = ds ++ ']' :: rest := by
      obtain ⟨ds, rfl⟩ := List.head?_eq_some_iff.mp hc
      exact skip_mark hbefore hbegins.1 _
    simp only [List.append_assoc, List.cons_append]
    rw [readItems, htext.reads fuel _ (by omega) (endsValue_mark hafter (by simp) _)]
    simp only [Option.bind_eq_bind, Option.bind_some, skip_mark hafter (show isBlank ',' = false from rfl)]
    rw [hskip, ih (by omega)]
    rfl

/-- An array is a text of its items between brackets. -/
theorem IsBodyOf.isTextOf {vs : List Json} {body : List Char} (h : IsBodyOf vs body) :
    IsTextOf (.arr vs) ('[' :: (body ++ [']'])) := by
  refine ⟨⟨'[', rfl, by decide, by decide⟩, fun fuel rest hfuel _ => ?_⟩
  simp only [List.length_cons, List.length_append, List.length_nil] at hfuel
  obtain ⟨fuel, rfl⟩ : ∃ n, fuel = n + 1 := ⟨fuel - 1, by omega⟩
  cases h with
  | empty hblank =>
    simp only [List.cons_append, List.append_assoc, List.nil_append]
    rw [readValue, skip_mark hblank (show isBlank ']' = false from rfl)]
    rfl
  | @items vs before cs hblank hitems =>
    obtain ⟨c, hc, hbegins⟩ := hitems.begins
    rw [List.length_append] at hfuel
    have hread : readItems fuel _ = _ := hitems.readItems_eq rest (by omega)
    obtain ⟨cs, rfl⟩ := List.head?_eq_some_iff.mp hc
    simp only [List.cons_append, List.append_assoc, List.nil_append] at hread ⊢
    rw [readValue, skip_mark hblank hbegins.1]
    split
    · rename_i hclose
      cases hclose
      exact absurd rfl hbegins.2
    · rw [hread]
      rfl

/-! ### Objects -/

/-- The characters are fields of an object up to the brace behind them: they are read as these, whatever
follows the brace. -/
structure AreFieldsOf (pairs : List (String × Json)) (cs : List Char) : Prop where
  begins : ∃ ds, cs = '"' :: ds
  reads : ∀ fuel rest, cs.length < fuel → readFields fuel (cs ++ '\x7d' :: rest) = some (pairs, rest)

/-- A name that is a text names a field. -/
def named (name : Option String) (v : Json) : List (String × Json) :=
  match name with
  | some name => [(name, v)]
  | none => []

section Field

variable {v : Json} {cs name before colon after : List Char} {key : Option String} (h : IsTextOf v cs)
  (hname : ∀ rest, readString (name ++ rest) = some (key, rest)) (hbefore : AreBlank before)
  (hcolon : AreBlank colon) (hafter : AreBlank after)

include h hname hbefore hcolon hafter

/-- A field is the last one if a brace stands behind it. -/
theorem IsTextOf.fieldsOf_last :
    AreFieldsOf (named key v) ('"' :: (name ++ (before ++ ':' :: (colon ++ (cs ++ after))))) := by
  refine ⟨⟨_, rfl⟩, fun fuel rest hfuel => ?_⟩
  obtain ⟨fuel, rfl⟩ : ∃ n, fuel = n + 1 := ⟨fuel - 1, by omega⟩
  simp only [List.length_append, List.length_cons] at hfuel
  simp only [List.append_assoc, List.cons_append]
  rw [readFields, hname]
  simp only [Option.bind_eq_bind, Option.bind_some, skip_mark hbefore (show isBlank ':' = false from rfl)]
  rw [h.skip hcolon, h.reads fuel _ (by omega) (endsValue_mark hafter (by simp) rest), Option.bind_some,
    skip_mark hafter (show isBlank '\x7d' = false from rfl)]
  rfl

/-- A field is followed by others if a comma stands behind it. -/
theorem IsTextOf.fieldsOf_more {space ds : List Char} {pairs : List (String × Json)} (hspace : AreBlank space)
    (hfields : AreFieldsOf pairs ds) : AreFieldsOf (named key v ++ pairs)
      ('"' :: (name ++ (before ++ ':' :: (colon ++ (cs ++ (after ++ ',' :: (space ++ ds))))))) := by
  refine ⟨⟨_, rfl⟩, fun fuel rest hfuel => ?_⟩
  obtain ⟨fuel, rfl⟩ : ∃ n, fuel = n + 1 := ⟨fuel - 1, by omega⟩
  simp only [List.length_append, List.length_cons] at hfuel
  have hothers := hfields.reads fuel rest (by omega)
  obtain ⟨ds, rfl⟩ := hfields.begins
  simp only [List.append_assoc, List.cons_append] at hothers ⊢
  rw [readFields, hname]
  simp only [Option.bind_eq_bind, Option.bind_some, skip_mark hbefore (show isBlank ':' = false from rfl)]
  rw [h.skip hcolon, h.reads fuel _ (by omega) (endsValue_mark hafter (by simp) _), Option.bind_some,
    skip_mark hafter (show isBlank ',' = false from rfl)]
  simp only [skip_mark hspace (show isBlank '"' = false from rfl), hothers]
  rfl

end Field

/-- An object is a text of its fields between braces. -/
theorem AreFieldsOf.isTextOf {pairs : List (String × Json)} {before cs : List Char}
    (h : AreFieldsOf pairs cs) (hbefore : AreBlank before) :
    IsTextOf (.obj (ofPairs pairs)) ('\x7b' :: (before ++ (cs ++ ['\x7d']))) := by
  refine ⟨⟨'\x7b', rfl, by decide, by decide⟩, fun fuel rest hfuel _ => ?_⟩
  simp only [List.length_cons, List.length_append, List.length_nil] at hfuel
  obtain ⟨fuel, rfl⟩ : ∃ n, fuel = n + 1 := ⟨fuel - 1, by omega⟩
  have hread := h.reads fuel rest (by omega)
  obtain ⟨ds, rfl⟩ := h.begins
  simp only [List.cons_append, List.append_assoc, List.nil_append] at hread ⊢
  rw [readValue, skip_mark hbefore (show isBlank '"' = false from rfl)]
  split
  · rename_i hclose
    cases hclose
  · rw [hread]
    rfl

/-- An object without fields is a text of braces. -/
theorem isTextOf_obj_nil {blanks : List Char} (h : AreBlank blanks) :
    IsTextOf (.obj []) ('\x7b' :: (blanks ++ ['\x7d'])) := by
  refine ⟨⟨'\x7b', rfl, by decide, by decide⟩, fun fuel rest hfuel _ => ?_⟩
  simp only [List.length_cons, List.length_append, List.length_nil] at hfuel
  obtain ⟨fuel, rfl⟩ : ∃ n, fuel = n + 1 := ⟨fuel - 1, by omega⟩
  simp only [List.cons_append, List.append_assoc, List.nil_append]
  rw [readValue, skip_mark h (show isBlank '\x7d' = false from rfl)]
  rfl

/-! ### What is read -/

/-- A text that is read in one step, whatever follows, is one of the value. -/
theorem isTextOf_of_step {v : Json} {c : Char} {cs : List Char} (hbegins : BeginsValue c)
    (h : ∀ fuel rest, EndsValue rest → readValue (fuel + 1) (c :: cs ++ rest) = some (v, rest)) :
    IsTextOf v (c :: cs) := by
  refine ⟨⟨c, rfl, hbegins⟩, fun fuel rest hfuel hrest => ?_⟩
  rw [List.length_cons] at hfuel
  obtain ⟨fuel, rfl⟩ : ∃ n, fuel = n + 1 := ⟨fuel - 1, by omega⟩
  exact h fuel rest hrest

/-- What is read with so many steps is a text of what it is read as, at the front of the characters. -/
structure ReadsTexts (fuel : ℕ) : Prop where
  value : ∀ {cs rest v}, readValue fuel cs = some (v, rest) → ∃ front, cs = front ++ rest ∧ IsTextOf v front
  items : ∀ {cs rest vs}, readItems fuel cs = some (vs, rest) →
    ∃ front, cs = front ++ ']' :: rest ∧ AreItemsOf vs front
  fields : ∀ {cs rest pairs}, readFields fuel cs = some (pairs, rest) →
    ∃ front, cs = front ++ '\x7d' :: rest ∧ AreFieldsOf pairs front

/-- Items that were read with one more step. -/
theorem ReadsTexts.readItems_succ {fuel : ℕ} (h : ReadsTexts fuel) {cs rest : List Char} {vs : List Json}
    (hread : readItems (fuel + 1) cs = some (vs, rest)) :
    ∃ front, cs = front ++ ']' :: rest ∧ AreItemsOf vs front := by
  rw [readItems] at hread
  obtain ⟨⟨v, rest'⟩, hvalue, hmark⟩ := Option.bind_eq_some_iff.mp hread
  obtain ⟨text, rfl, htext⟩ := h.value hvalue
  dsimp only at hmark
  split at hmark
  · rename_i hskip
    cases hmark
    obtain ⟨after, rfl, hafter⟩ := exists_blanks_of_skip hskip
    exact ⟨text ++ after, (List.append_assoc ..).symm, .last htext hafter⟩
  · rename_i hskip
    obtain ⟨⟨more, rest''⟩, hmore, hmark⟩ := Option.bind_eq_some_iff.mp hmark
    cases hmark
    obtain ⟨after, rfl, hafter⟩ := exists_blanks_of_skip hskip
    obtain ⟨front, hfront, hitems⟩ := h.items hmore
    obtain ⟨before, rfl, hbefore⟩ := exists_blanks_of_skip hfront
    exact ⟨_, by simp only [List.append_assoc, List.cons_append], .more htext hafter hbefore hitems⟩
  · cases hmark

/-- An array that was read with one more step. -/
theorem ReadsTexts.readArray_succ {fuel : ℕ} (h : ReadsTexts fuel) {cs rest : List Char} {v : Json}
    (hread : readValue (fuel + 1) ('[' :: cs) = some (v, rest)) :
    ∃ vs body, v = .arr vs ∧ cs = body ++ ']' :: rest ∧ IsBodyOf vs body := by
  rw [readValue] at hread
  split at hread
  · rename_i hskip
    cases hread
    obtain ⟨blanks, rfl, hblanks⟩ := exists_blanks_of_skip hskip
    exact ⟨[], blanks, rfl, rfl, .empty hblanks⟩
  · obtain ⟨⟨vs, rest'⟩, hread, harray⟩ := Option.bind_eq_some_iff.mp hread
    cases harray
    obtain ⟨front, hfront, hitems⟩ := h.items hread
    obtain ⟨blanks, rfl, hblanks⟩ := exists_blanks_of_skip hfront
    exact ⟨vs, blanks ++ front, rfl, (List.append_assoc ..).symm, .items hblanks hitems⟩

/-- Fields that were read with one more step. -/
theorem ReadsTexts.readFields_succ {fuel : ℕ} (h : ReadsTexts fuel) {cs rest : List Char}
    {pairs : List (String × Json)} (hread : readFields (fuel + 1) cs = some (pairs, rest)) :
    ∃ front, cs = front ++ '\x7d' :: rest ∧ AreFieldsOf pairs front := by
  rw [readFields.eq_def] at hread
  dsimp only at hread
  split at hread
  · rename_i afterQuote
    obtain ⟨⟨key, rest₁⟩, hkey, hcolon⟩ := Option.bind_eq_some_iff.mp hread
    obtain ⟨name, rfl, hname⟩ := exists_front_of_readString hkey
    dsimp only at hcolon
    split at hcolon
    · rename_i rest₂ hskip
      obtain ⟨before, rfl, hbefore⟩ := exists_blanks_of_skip hskip
      obtain ⟨⟨v, rest₃⟩, hvalue, hmark⟩ := Option.bind_eq_some_iff.mp hcolon
      obtain ⟨text, htexts, htext⟩ := h.value hvalue
      obtain ⟨colon, rfl, hblank⟩ := exists_blanks_of_skip htexts
      dsimp only at hmark
      split at hmark
      · rename_i hskip
        cases hmark
        obtain ⟨after, rfl, hafter⟩ := exists_blanks_of_skip hskip
        refine ⟨_, ?_, htext.fieldsOf_last hname hbefore hblank hafter⟩
        simp only [List.append_assoc, List.cons_append]
      · rename_i hskip
        obtain ⟨⟨more, rest₄⟩, hmore, hmark⟩ := Option.bind_eq_some_iff.mp hmark
        cases hmark
        obtain ⟨after, rfl, hafter⟩ := exists_blanks_of_skip hskip
        obtain ⟨front, hfront, hfields⟩ := h.fields hmore
        obtain ⟨space, rfl, hspace⟩ := exists_blanks_of_skip hfront
        refine ⟨_, ?_, htext.fieldsOf_more hname hbefore hblank hafter hspace hfields⟩
        simp only [List.append_assoc, List.cons_append]
      · cases hmark
    · cases hcolon
  · cases hread

/-- A number begins as a value can. -/
theorem BeginsNumber.beginsValue {c : Char} (h : BeginsNumber c) : BeginsValue c := by
  constructor
  · rw [← Bool.not_eq_true]
    intro hblank
    rcases eq_of_isBlank hblank with rfl | rfl | rfl | rfl <;> exact absurd h (by decide)
  · rintro rfl
    exact absurd h (by decide)

/-- A value that was read with one more step. -/
theorem ReadsTexts.readValue_succ {fuel : ℕ} (h : ReadsTexts fuel) {cs rest : List Char} {v : Json}
    (hread : readValue (fuel + 1) cs = some (v, rest)) :
    ∃ front, cs = front ++ rest ∧ IsTextOf v front := by
  rw [readValue.eq_def] at hread
  dsimp only at hread
  split at hread
  · -- a string
    obtain ⟨⟨s, rest'⟩, hs, hread⟩ := Option.bind_eq_some_iff.mp hread
    cases hread
    obtain ⟨front, rfl, hfront⟩ := exists_front_of_readString hs
    refine ⟨'"' :: front, rfl, isTextOf_of_step (by decide) fun fuel tail _ => ?_⟩
    rw [List.cons_append, readValue, hfront]
    rfl
  · -- an array
    rename_i inner
    obtain ⟨vs, body, rfl, rfl, hbody⟩ := h.readArray_succ (show _ = _ by rwa [readValue])
    exact ⟨'[' :: (body ++ [']']), by simp, hbody.isTextOf⟩
  · -- an object
    split at hread
    · rename_i hskip
      cases hread
      obtain ⟨blanks, rfl, hblanks⟩ := exists_blanks_of_skip hskip
      exact ⟨'\x7b' :: (blanks ++ ['\x7d']), by simp, isTextOf_obj_nil hblanks⟩
    · obtain ⟨⟨pairs, rest'⟩, hpairs, hobject⟩ := Option.bind_eq_some_iff.mp hread
      cases hobject
      obtain ⟨front, hfront, hfields⟩ := h.fields hpairs
      obtain ⟨blanks, rfl, hblanks⟩ := exists_blanks_of_skip hfront
      exact ⟨'\x7b' :: (blanks ++ (front ++ ['\x7d'])), by simp, hfields.isTextOf hblanks⟩
  · cases hread
    exact ⟨"null".toList, rfl, isTextOf_of_step (by decide) fun _ _ _ => rfl⟩
  · cases hread
    exact ⟨"true".toList, rfl, isTextOf_of_step (by decide) fun _ _ _ => rfl⟩
  · cases hread
    exact ⟨"false".toList, rfl, isTextOf_of_step (by decide) fun _ _ _ => rfl⟩
  · -- a number
    obtain ⟨front, rfl, ⟨c, hc, hbegins⟩, hfront⟩ := exists_front_of_readNumber hread
    obtain ⟨front, rfl⟩ := List.head?_eq_some_iff.mp hc
    refine ⟨c :: front, rfl, isTextOf_of_step hbegins.beginsValue fun fuel tail htail => ?_⟩
    rw [List.cons_append, readValue_number hbegins]
    exact hfront tail htail

/-- What is read is a text of what it is read as, at the front of the characters. -/
theorem readsTexts (fuel : ℕ) : ReadsTexts fuel := by
  induction fuel with
  | zero =>
    refine ⟨fun h => ?_, fun h => ?_, fun h => ?_⟩
    · rw [readValue] at h
      cases h
    · rw [readItems] at h
      cases h
    · rw [readFields] at h
      cases h
  | succ fuel ih =>
    exact ⟨ih.readValue_succ, ih.readItems_succ, ih.readFields_succ⟩

/-! ### Whole texts -/

/-- A value is that of a text exactly if the text is one of the value between blanks. -/
theorem parse?_eq_some_iff {cs : List Char} {v : Json} : parse? cs = some v ↔ ∃ before text after,
    cs = before ++ text ++ after ∧ AreBlank before ∧ AreBlank after ∧ IsTextOf v text := by
  unfold parse?
  constructor
  · intro h
    obtain ⟨⟨value, rest⟩, hread, h⟩ := Option.bind_eq_some_iff.mp h
    dsimp only at h
    split_ifs at h with hrest
    cases h
    obtain ⟨text, hcs, htext⟩ := (readsTexts _).value hread
    obtain ⟨before, rfl, hbefore⟩ := exists_blanks_of_skip hcs
    obtain ⟨after, rfl, hafter⟩ := exists_blanks_of_skip hrest
    refine ⟨before, text, after, ?_, hbefore, hafter, htext⟩
    rw [List.append_nil, List.append_assoc]
  · rintro ⟨before, text, after, rfl, hbefore, hafter, htext⟩
    have hskip : skip (before ++ text ++ after) = text ++ after := by
      rw [List.append_assoc]
      exact htext.skip hbefore after
    have hrest : skip after = [] := by
      have hnil : skip (after ++ []) = [] := skip_append hafter (by simp)
      rwa [List.append_nil] at hnil
    have hends : EndsValue after := by
      intro c hc
      have hmark : EndsValue (after ++ [']']) := endsValue_mark hafter (by simp) []
      refine hmark c ?_
      rw [List.head?_append, Option.mem_def.mp hc]
      rfl
    rw [hskip, htext.reads _ after ?_ hends]
    · exact if_pos hrest
    · simp only [List.length_append]
      omega

/-- No number is an array. -/
theorem readMagnitude_ne_arr {negative : Bool} {cs rest : List Char} {vs : List Json} :
    readMagnitude negative cs ≠ some (.arr vs, rest) := by
  intro h
  unfold readMagnitude at h
  dsimp only at h
  by_cases hnil : wholePart cs = []
  · rw [if_pos hnil] at h
    cases h
  · rw [if_neg hnil] at h
    split at h
    · split_ifs at h
      cases h
    · cases h

/-- A value that is read as an array begins with a bracket. -/
theorem exists_of_readValue_arr {fuel : ℕ} {cs rest : List Char} {vs : List Json}
    (h : readValue fuel cs = some (.arr vs, rest)) :
    ∃ body, cs = '[' :: (body ++ ']' :: rest) ∧ IsBodyOf vs body := by
  cases fuel with
  | zero =>
    rw [readValue] at h
    cases h
  | succ fuel =>
    have hread := h
    rw [readValue.eq_def] at h
    dsimp only at h
    split at h
    · obtain ⟨⟨_ | s, rest'⟩, -, h⟩ := Option.bind_eq_some_iff.mp h <;> cases h
    · obtain ⟨vs', body, hvs, rfl, hbody⟩ := (readsTexts fuel).readArray_succ hread
      cases hvs
      exact ⟨body, rfl, hbody⟩
    · split at h
      · cases h
      · obtain ⟨⟨pairs, rest'⟩, -, h⟩ := Option.bind_eq_some_iff.mp h
        cases h
    · cases h
    · cases h
    · cases h
    · unfold readNumber at h
      split at h
      · cases h
      · cases h
      · cases h
      · exact absurd h readMagnitude_ne_arr
      · exact absurd h readMagnitude_ne_arr

/-- An array is that of a text exactly if the text has its items between brackets, with blanks around
these. -/
theorem parse?_eq_arr_iff {cs : List Char} {vs : List Json} : parse? cs = some (.arr vs) ↔
    ∃ before body after, cs = before ++ '[' :: (body ++ [']']) ++ after ∧ AreBlank before ∧ AreBlank after ∧
      IsBodyOf vs body := by
  rw [parse?_eq_some_iff]
  constructor
  · rintro ⟨before, text, after, rfl, hbefore, hafter, htext⟩
    have hread := htext.reads text.length [] le_rfl (by rintro _ ⟨⟩)
    rw [List.append_nil] at hread
    obtain ⟨body, rfl, hbody⟩ := exists_of_readValue_arr hread
    exact ⟨before, body, after, rfl, hbefore, hafter, hbody⟩
  · rintro ⟨before, body, after, rfl, hbefore, hafter, hbody⟩
    exact ⟨before, _, after, rfl, hbefore, hafter, hbody.isTextOf⟩

/-- The blanks of JSON are blanks. -/
theorem isBlank_text {c : Char} (h : isBlank c = true) : Text.isBlank c = true := by
  rcases eq_of_isBlank h with rfl | rfl | rfl | rfl <;> decide

/-- The text of an array stands for the array also when it is stripped. -/
theorem parse?_strip_of_arr {text : String} {vs : List Json} (h : parse? text.toList = some (.arr vs)) :
    parse? (Text.strip text).toList = some (.arr vs) := by
  obtain ⟨before, body, after, htext, hbefore, hafter, hbody⟩ := parse?_eq_arr_iff.mp h
  have hstrip : Text.trimBy Text.isBlank text.toList = '[' :: (body ++ [']']) := by
    rw [htext]
    refine Text.trimBy_append (fun c hc => isBlank_text (hbefore c hc))
      (fun c hc => isBlank_text (hafter c hc)) ?_ ?_
    · rintro c ⟨⟩
      decide
    · rw [← List.cons_append, List.getLast?_append, List.getLast?_singleton, Option.some_or]
      rintro c ⟨⟩
      decide
  unfold Text.strip
  rw [String.toList_ofList, hstrip, parse?_eq_arr_iff]
  exact ⟨[], body, [], by simp, by simp [AreBlank], by simp [AreBlank], hbody⟩

/-! ### Arrays in a row -/

/-- Items behind items, with a comma between them, are items. -/
theorem AreItemsOf.append {vs ws : List Json} {cs before ds : List Char} (h : AreItemsOf vs cs)
    (hbefore : AreBlank before) (h' : AreItemsOf ws ds) :
    AreItemsOf (vs ++ ws) (cs ++ ',' :: (before ++ ds)) := by
  induction h with
  | last htext hafter =>
    rw [List.append_assoc]
    exact .more htext hafter hbefore h'
  | more htext hafter hspace _ ih =>
    simp only [List.append_assoc, List.cons_append]
    exact .more htext hafter hspace ih

/-- Two arrays that have texts have one in a row. -/
theorem exists_parse?_append {cs ds : List Char} {vs ws : List Json} (hvs : parse? cs = some (.arr vs))
    (hws : parse? ds = some (.arr ws)) : ∃ es, parse? es = some (.arr (vs ++ ws)) := by
  obtain ⟨-, body, -, -, -, -, hbody⟩ := parse?_eq_arr_iff.mp hvs
  obtain ⟨-, body', -, -, -, -, hbody'⟩ := parse?_eq_arr_iff.mp hws
  cases hbody with
  | empty => exact ⟨ds, hws⟩
  | items hblank hitems =>
    cases hbody' with
    | empty =>
      rw [List.append_nil]
      exact ⟨cs, hvs⟩
    | items hblank' hitems' =>
      have hall := IsBodyOf.items hblank (hitems.append hblank' hitems')
      exact ⟨_, parse?_eq_arr_iff.mpr ⟨[], _, [], rfl, by simp [AreBlank], by simp [AreBlank], hall⟩⟩

end Backoffice.Json
