import Mathlib
import Backoffice.Proofs.Json.RoundTrip

/-!
# Values of JSON texts

Which values a JSON text can stand for.  The reader takes no whole number of too many digits, and gives
no object that names a field twice; so of a value that was read nothing is lost when it is written, unless
it holds a number with a point or a string that is no text: `isExact_iff`.
-/

namespace Backoffice.Json

/-- Neither a number with a point nor a string that is no text occurs in the value. -/
inductive IsPlain : Json → Prop
  | null : IsPlain .null
  | bool (b : Bool) : IsPlain (.bool b)
  | int (n : ℤ) : IsPlain (.int n)
  | str (s : String) : IsPlain (.str s)
  | arr {items : List Json} (plain : ∀ v ∈ items, IsPlain v) : IsPlain (.arr items)
  | obj {fields : List (String × Json)} (plain : ∀ f ∈ fields, IsPlain f.2) : IsPlain (.obj fields)

/-- Some text stands for the value: its whole numbers are not longer than a reader takes, and its objects
name no field twice. -/
def IsDocument (v : Json) : Prop :=
  ∃ cs, parse? cs = some v

/-- A value of which nothing is lost is plain. -/
theorem IsExact.isPlain {v : Json} (h : v.IsExact) : v.IsPlain := by
  induction h with
  | null => exact .null
  | bool b => exact .bool b
  | @int n _ => exact .int n
  | str s => exact .str s
  | arr _ ih => exact .arr ih
  | obj _ _ ih => exact .obj ih

/-- The names in an object of which nothing is lost are different. -/
theorem IsExact.nodup {fields : List (String × Json)} (h : (Json.obj fields).IsExact) :
    (fields.map (·.1)).Nodup := by
  cases h with
  | obj distinct _ => exact distinct

/-! ### Numbers that were read -/

/-- The whole part of a number consists of digits. -/
theorem isDigit_of_mem_wholePart {cs : List Char} {c : Char} (h : c ∈ wholePart cs) :
    Text.isDigit c = true := by
  unfold wholePart at h
  split at h
  · rw [List.mem_singleton.mp h]
    rfl
  · exact List.mem_takeWhile_imp h

/-- A whole number that was read is short, with a sign or without one. -/
theorem isExact_of_readMagnitude {negative : Bool} {cs rest : List Char} {v : Json}
    (h : readMagnitude negative cs = some (v, rest)) (hplain : v.IsPlain) : v.IsExact := by
  unfold readMagnitude at h
  dsimp only at h
  by_cases hnil : wholePart cs = []
  · rw [if_pos hnil] at h
    cases h
  · rw [if_neg hnil] at h
    have hdigits := Text.length_toDigits_natOf (fun c hc => isDigit_of_mem_wholePart hc) hnil
    split at h
    · by_cases hshort : (wholePart cs).length ≤ Text.maxDigits
      · rw [if_pos hshort] at h
        cases h
        refine .int (le_trans ?_ (le_trans hdigits hshort))
        unfold Text.signed
        split <;> simp
      · rw [if_neg hshort] at h
        cases h
    · cases h
      cases hplain

/-- A number that was read is no longer than the reader takes. -/
theorem isExact_of_readNumber {cs rest : List Char} {v : Json}
    (h : readNumber cs = some (v, rest)) (hplain : v.IsPlain) : v.IsExact := by
  unfold readNumber at h
  split at h
  · cases h
    cases hplain
  · cases h
    cases hplain
  · cases h
    cases hplain
  · exact isExact_of_readMagnitude h hplain
  · exact isExact_of_readMagnitude h hplain

/-! ### Objects that were read -/

/-- Setting a field keeps the names of the fields different. -/
theorem nodup_setField (k : String) (v : Json) {fields : List (String × Json)}
    (h : (fields.map (·.1)).Nodup) : ((setField k v fields).map (·.1)).Nodup := by
  by_cases hk : k ∈ fields.map (·.1)
  · have hnames : (setField k v fields).map (·.1) = fields.map (·.1) := by
      clear h
      induction fields with
      | nil => cases hk
      | cons f fields ih =>
        rw [setField]
        split_ifs with hf
        · rw [List.map_cons, List.map_cons, hf]
        · rw [List.map_cons, List.map_cons, ih ((List.mem_cons.mp hk).resolve_left (Ne.symm hf))]
    rwa [hnames]
  · rw [setField_of_notMem hk, List.map_append, List.nodup_append']
    refine ⟨h, List.nodup_singleton _, ?_⟩
    intro name hname hnew
    rw [List.map_singleton, List.mem_singleton] at hnew
    rw [hnew] at hname
    exact hk hname

/-- A field after setting one is the new one or one of the old. -/
theorem of_mem_setField {k : String} {v : Json} {fields : List (String × Json)} {f : String × Json}
    (h : f ∈ setField k v fields) : f = (k, v) ∨ f ∈ fields := by
  induction fields with
  | nil => exact Or.inl (List.mem_singleton.mp h)
  | cons g fields ih =>
    rw [setField] at h
    split_ifs at h with hg
    · rcases List.mem_cons.mp h with hf | hf
      · exact Or.inl hf
      · exact Or.inr (List.mem_cons_of_mem g hf)
    · rcases List.mem_cons.mp h with hf | hf
      · rw [hf]
        exact Or.inr List.mem_cons_self
      · exact (ih hf).imp_right (List.mem_cons_of_mem g)

/-- The fields of pairs have different names, and each of them is one of the pairs. -/
theorem ofPairs_spec (pairs : List (String × Json)) :
    ((ofPairs pairs).map (·.1)).Nodup ∧ ∀ f ∈ ofPairs pairs, f ∈ pairs := by
  unfold ofPairs
  induction pairs using List.reverseRecOn with
  | nil => simp
  | append_singleton pairs p ih =>
    obtain ⟨hnodup, hmem⟩ := ih
    rw [List.foldl_append, List.foldl_cons, List.foldl_nil]
    refine ⟨nodup_setField p.1 p.2 hnodup, fun f hf => ?_⟩
    rcases of_mem_setField hf with rfl | hf
    · exact List.mem_append_right _ (List.mem_singleton_self _)
    · exact List.mem_append_left _ (hmem f hf)

/-! ### Values that were read -/

/-- What the reader gives with so many steps can be written without loss, if it is plain. -/
structure GivesExact (fuel : ℕ) : Prop where
  value : ∀ {cs rest v}, readValue fuel cs = some (v, rest) → v.IsPlain → v.IsExact
  items : ∀ {cs rest items}, readItems fuel cs = some (items, rest) →
    ∀ v ∈ items, v.IsPlain → v.IsExact
  fields : ∀ {cs rest pairs}, readFields fuel cs = some (pairs, rest) →
    ∀ f ∈ pairs, f.2.IsPlain → f.2.IsExact

/-- A value that was read with one more step. -/
theorem GivesExact.readValue_succ {fuel : ℕ} (h : GivesExact fuel) {cs rest : List Char} {v : Json}
    (hread : readValue (fuel + 1) cs = some (v, rest)) (hplain : v.IsPlain) : v.IsExact := by
  rw [readValue.eq_def] at hread
  dsimp only at hread
  split at hread
  · -- a string
    obtain ⟨⟨s, rest'⟩, -, hread⟩ := Option.bind_eq_some_iff.mp hread
    cases hread
    cases s with
    | none => cases hplain
    | some s => exact .str s
  · -- an array
    split at hread
    · cases hread
      exact .arr (by simp)
    · obtain ⟨⟨items, rest'⟩, hitems, hread⟩ := Option.bind_eq_some_iff.mp hread
      cases hread
      cases hplain with
      | arr hplain => exact .arr fun v hv => h.items hitems v hv (hplain v hv)
  · -- an object
    split at hread
    · cases hread
      exact .obj (by simp) (by simp)
    · obtain ⟨⟨pairs, rest'⟩, hpairs, hread⟩ := Option.bind_eq_some_iff.mp hread
      cases hread
      obtain ⟨hnodup, hmem⟩ := ofPairs_spec pairs
      cases hplain with
      | obj hplain => exact .obj hnodup fun f hf => h.fields hpairs f (hmem f hf) (hplain f hf)
  · cases hread
    exact .null
  · cases hread
    exact .bool true
  · cases hread
    exact .bool false
  · exact isExact_of_readNumber hread hplain

/-- Items that were read with one more step. -/
theorem GivesExact.readItems_succ {fuel : ℕ} (h : GivesExact fuel) {cs rest : List Char}
    {items : List Json} (hread : readItems (fuel + 1) cs = some (items, rest)) :
    ∀ v ∈ items, v.IsPlain → v.IsExact := by
  rw [readItems] at hread
  obtain ⟨⟨item, rest'⟩, hitem, hread⟩ := Option.bind_eq_some_iff.mp hread
  dsimp only at hread
  split at hread
  · cases hread
    rw [List.forall_mem_singleton]
    exact h.value hitem
  · obtain ⟨⟨more, rest''⟩, hmore, hread⟩ := Option.bind_eq_some_iff.mp hread
    cases hread
    rw [List.forall_mem_cons]
    exact ⟨h.value hitem, h.items hmore⟩
  · cases hread

/-- Fields that were read with one more step. -/
theorem GivesExact.readFields_succ {fuel : ℕ} (h : GivesExact fuel) {cs rest : List Char}
    {pairs : List (String × Json)} (hread : readFields (fuel + 1) cs = some (pairs, rest)) :
    ∀ f ∈ pairs, f.2.IsPlain → f.2.IsExact := by
  have hfield : ∀ (name : String) (value : Json), (value.IsPlain → value.IsExact) →
      ∀ f ∈ [(name, value)], f.2.IsPlain → f.2.IsExact := by
    intro name value hvalue f hf
    rw [List.mem_singleton.mp hf]
    exact hvalue
  rw [readFields.eq_def] at hread
  dsimp only at hread
  split at hread
  · obtain ⟨⟨name, rest₁⟩, -, hread⟩ := Option.bind_eq_some_iff.mp hread
    dsimp only at hread
    split at hread
    · obtain ⟨⟨value, rest₂⟩, hvalue, hread⟩ := Option.bind_eq_some_iff.mp hread
      dsimp only at hread
      split at hread
      · cases hread
        cases name with
        | none => exact List.forall_mem_nil _
        | some name => exact hfield name value (h.value hvalue)
      · obtain ⟨⟨more, rest₃⟩, hmore, hread⟩ := Option.bind_eq_some_iff.mp hread
        cases hread
        rw [List.forall_mem_append]
        refine ⟨?_, h.fields hmore⟩
        cases name with
        | none => exact List.forall_mem_nil _
        | some name => exact hfield name value (h.value hvalue)
      · cases hread
    · cases hread
  · cases hread

/-- What the reader gives can be written without loss, if it is plain. -/
theorem givesExact (fuel : ℕ) : GivesExact fuel := by
  induction fuel with
  | zero =>
    refine ⟨fun h => ?_, fun h => ?_, fun h => ?_⟩
    · rw [readValue] at h
      cases h
    · rw [readItems] at h
      cases h
    · rw [readFields] at h
      cases h
  | succ fuel ih =>
    exact ⟨ih.readValue_succ, ih.readItems_succ, ih.readFields_succ⟩

/-- The values that can be written without loss are the plain ones that some text stands for. -/
theorem isExact_iff {v : Json} : v.IsExact ↔ v.IsPlain ∧ v.IsDocument := by
  constructor
  · intro h
    exact ⟨h.isPlain, write .compact v, parse?_write Style.isRegular_compact h⟩
  · rintro ⟨hplain, cs, hparse⟩
    unfold parse? at hparse
    obtain ⟨⟨value, rest⟩, hread, hparse⟩ := Option.bind_eq_some_iff.mp hparse
    dsimp only at hparse
    split_ifs at hparse
    cases hparse
    exact (givesExact _).value hread hplain

end Backoffice.Json
