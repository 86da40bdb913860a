import Mathlib
import Backoffice.Form.Reading

/-!
# Entries under names

Of a list of named entries the first one under a name counts, also of the fields of a form with a single name
(`Form.find_singleton`).  Entries that are left out by their names take nothing from the other names:
`lookup_filter`, and `Form.find_filter` for the fields of a form.  Nor does a field that is set:
`Json.lookup_setField`.
-/

namespace Backoffice

variable {α : Type}

/-- The first entry is found under its own name. -/
theorem lookup_cons_eq (k : String) (v : α) (entries : List (String × α)) (key : String) :
    ((k, v) :: entries).lookup key = if key = k then some v else entries.lookup key := by
  rw [List.lookup_cons]
  by_cases h : key = k
  · rw [if_pos h, beq_iff_eq.mpr h]
  · rw [if_neg h, beq_eq_false_iff_ne.mpr h]

/-- Of entries that are kept by their names, those of a kept name are found as before. -/
theorem lookup_filter (keep : String → Bool) (entries : List (String × α)) (key : String) :
    (entries.filter fun e => keep e.1).lookup key = if keep key then entries.lookup key else none := by
  induction entries with
  | nil => simp
  | cons e entries ih =>
    obtain ⟨k, v⟩ := e
    by_cases hk : keep k = true
    · rw [List.filter_cons_of_pos (by simpa using hk), lookup_cons_eq, lookup_cons_eq, ih]
      by_cases hkey : key = k
      · rw [if_pos hkey, if_pos hkey, hkey, if_pos hk]
      · rw [if_neg hkey, if_neg hkey]
    · rw [List.filter_cons_of_neg (by simpa using hk), ih, lookup_cons_eq]
      split_ifs with hkeep hkey
      · exact absurd (hkey ▸ hkeep) hk
      · rfl
      · rfl

/-- What is found under a name after a field was set. -/
theorem Json.lookup_setField (k : String) (v : Json) (fields : List (String × Json)) (key : String) :
    (setField k v fields).lookup key = if key = k then some v else fields.lookup key := by
  induction fields with
  | nil => rw [setField, lookup_cons_eq]
  | cons f fields ih =>
    obtain ⟨name, w⟩ := f
    rw [setField, lookup_cons_eq]
    by_cases hname : name = k
    · rw [if_pos hname, lookup_cons_eq, hname]
      split_ifs <;> rfl
    · rw [if_neg hname, lookup_cons_eq, ih]
      by_cases hkey : key = name
      · rw [if_pos hkey, if_pos hkey, if_neg (hkey ▸ hname)]
      · rw [if_neg hkey, if_neg hkey]

/-- A field with a single name is the first entry under it. -/
theorem Form.find_singleton (name : String) (fields : List (String × Json)) :
    find [name] fields = ⟨name, fields.lookup name⟩ := by
  unfold find
  cases hlookup : fields.lookup name <;> simp [hlookup]

/-- A field is found as before if all its names are kept. -/
theorem Form.find_filter {keep : String → Bool} {names : List String}
    (h : ∀ name ∈ names, keep name = true) (fields : List (String × Json)) :
    find names (fields.filter fun f => keep f.1) = find names fields := by
  have hvalue : ∀ name ∈ names,
      (fields.filter fun f => keep f.1).lookup name = fields.lookup name := by
    intro name hname
    rw [lookup_filter, if_pos (h name hname)]
  have hfirst : (names.find? fun name => ((fields.filter fun f => keep f.1).lookup name).isSome) =
      names.find? fun name => (fields.lookup name).isSome :=
    List.find?_congr fun name hname => by rw [hvalue name hname]
  unfold find
  rw [hfirst]
  cases hfound : names.find? fun name => (fields.lookup name).isSome with
  | none => rfl
  | some name =>
    simp only [hvalue name (List.mem_of_find?_eq_some hfound)]

end Backoffice
