import Mathlib
import Backoffice.Directory.Lookup
import Backoffice.Proofs.Query.Compile
import Backoffice.Proofs.Table.Filters
import Backoffice.Proofs.Table.Listing

/-!
# Which tables serve which lists

A table serves a specification if it has columns for all that the specification speaks of.  The table of
users serves the list of users, and every picker is a list of rows with a number, a name and a mark of
deletion, on a table that serves it (`Tables.exists_isPickerOf`).
-/

namespace Backoffice

namespace ListSpec

variable {ρ : Type} {spec : ListSpec} {columns : ColumnMap ρ}

/-- The fields that a specification speaks of. -/
def mentioned (spec : ListSpec) : List String :=
  spec.fields ++ spec.searchFields ++ (Text.nonBlank? (some spec.defaultSort)).toList ++ spec.thenBy ++
    match spec.scope with
    | .picker key => [key]
    | _ => []

/-- Fields to filter by are spoken of. -/
theorem mem_mentioned_of_mem_fields {f : String} (h : f ∈ spec.fields) : f ∈ spec.mentioned := by
  simp only [mentioned, List.mem_append]
  exact Or.inl (Or.inl (Or.inl (Or.inl h)))

/-- Fields to search are spoken of. -/
theorem mem_mentioned_of_mem_searchFields {f : String} (h : f ∈ spec.searchFields) :
    f ∈ spec.mentioned := by
  simp only [mentioned, List.mem_append]
  exact Or.inl (Or.inl (Or.inl (Or.inr h)))

/-- The fields to sort by after the first are spoken of. -/
theorem mem_mentioned_of_mem_thenBy {f : String} (h : f ∈ spec.thenBy) : f ∈ spec.mentioned := by
  simp only [mentioned, List.mem_append]
  exact Or.inl (Or.inr h)

/-- The key of a picker is spoken of. -/
theorem key_mem_mentioned {key : String} (h : spec.scope = .picker key) : key ∈ spec.mentioned := by
  simp only [mentioned, List.mem_append, h]
  exact Or.inr (List.mem_singleton_self key)

/-- A sort field that is chosen is one that the specification speaks of. -/
theorem mem_mentioned_of_sortField {requested : Option String} {field : String}
    (h : spec.sortField requested = .ok field) : field ∈ spec.mentioned := by
  unfold sortField at h
  split at h
  · split at h
    · rename_i name _ hname
      cases h
      exact mem_mentioned_of_mem_fields hname
    · cases h
  · split at h
    · rename_i name hname
      cases h
      simp only [mentioned, List.mem_append, hname, Option.toList_some]
      exact Or.inl (Or.inl (Or.inr (List.mem_singleton_self _)))
    · cases h

/-- The table has columns for all that the specification speaks of. -/
structure IsServed (spec : ListSpec) (columns : ColumnMap ρ) : Prop where
  base : ∀ n ∈ spec.base, n.IsSafe columns
  mentioned : ∀ f ∈ spec.mentioned, ∃ c, columns.lookup f = some c

/-- A specification that only leaves deleted rows out is served by a table with the named columns. -/
theorem isServed_of_isSome (hbase : spec.base = [.notDeleted])
    (h : ∀ f ∈ "deleted" :: spec.mentioned, (columns.lookup f).isSome = true) :
    spec.IsServed columns := by
  rw [List.forall_mem_cons] at h
  refine ⟨?_, fun f hf => Option.isSome_iff_exists.mp (h.2 f hf)⟩
  rw [hbase, List.forall_mem_singleton]
  obtain ⟨c, hc⟩ := Option.isSome_iff_exists.mp h.1
  exact Node.isSafe_test hc rfl rfl

namespace IsServed

/-- Fields to filter by have columns. -/
theorem fields (h : spec.IsServed columns) : ∀ f ∈ spec.fields, ∃ c, columns.lookup f = some c :=
  fun f hf => h.mentioned f (mem_mentioned_of_mem_fields hf)

/-- Fields to search have columns. -/
theorem searchFields (h : spec.IsServed columns) :
    ∀ f ∈ spec.searchFields, ∃ c, columns.lookup f = some c :=
  fun f hf => h.mentioned f (mem_mentioned_of_mem_searchFields hf)

/-- The fields to sort by after the first have columns. -/
theorem thenBy (h : spec.IsServed columns) : ∀ f ∈ spec.thenBy, ∃ c, columns.lookup f = some c :=
  fun f hf => h.mentioned f (mem_mentioned_of_mem_thenBy hf)

/-- The key of a picker has a column. -/
theorem key (h : spec.IsServed columns) {key : String} (hscope : spec.scope = .picker key) :
    ∃ c, columns.lookup key = some c :=
  h.mentioned key (key_mem_mentioned hscope)

end IsServed

/-- A predicate of a request is safe, or it is that of an equality filter. -/
theorem IsServed.isSafe_or (hserved : spec.IsServed columns) {p : ListParams}
    {equality : List EqualityFilter} {ranges : List DateRangeFilter} {days : List Node}
    (hranges : decodeDateRanges p.ranges = .ok ranges)
    (hdays : List.Forall₂ (fun f n => DateRangeFilter.predicate f = .ok n) ranges days)
    (hknown : ∀ f ∈ ranges, f.fieldName ∈ spec.fields) {n : Node}
    (hn : n ∈ spec.base ++ equality.map (·.predicate) ++ days ++
      ((Text.nonBlank? p.search).bind (Node.containsAny spec.searchFields)).toList) :
    n.IsSafe columns ∨ ∃ f ∈ equality, n = f.predicate := by
  rw [List.mem_append, List.mem_append, List.mem_append, List.mem_map, Option.mem_toList,
    Option.bind_eq_some_iff] at hn
  rcases hn with ((hbase | ⟨f, hf, rfl⟩) | hday) | ⟨term, -, hsearch⟩
  · exact Or.inl (hserved.base n hbase)
  · exact Or.inr ⟨f, hf, rfl⟩
  · obtain ⟨i, hi, rfl⟩ := List.getElem_of_mem hday
    have hlen := hdays.length_eq
    have hin := List.getElem_mem (hlen ▸ hi)
    obtain ⟨c, hc⟩ := hserved.fields _ (hknown _ hin)
    exact Or.inl (DateRangeFilter.isSafe_predicate hc
      (isApplicable_of_decodeDateRanges hranges _ hin) (hdays.get (hlen ▸ hi) hi))
  · exact Or.inl (Node.isSafe_containsAny hsearch hserved.searchFields)

/-- A sort field that is chosen has a column. -/
theorem exists_column_of_sortField (hserved : spec.IsServed columns) {requested : Option String}
    {field : String} (h : spec.sortField requested = .ok field) : ∃ c, columns.lookup field = some c :=
  hserved.mentioned field (mem_mentioned_of_sortField h)

end ListSpec

/-- The table of users serves the list of users. -/
theorem User.isServed_listSpec : User.listSpec.IsServed User.columns :=
  ListSpec.isServed_of_isSome rfl (by decide)

/-- The table of users serves the picker of users. -/
theorem User.isServed_picker : LookupSource.user.listSpec.IsServed User.pickerColumns :=
  ListSpec.isServed_of_isSome rfl (by decide)

namespace LookupSource

/-- Every picker shows the rows that are selected by their number. -/
theorem scope_eq (source : LookupSource) : source.listSpec.scope = .picker "id" := by
  cases source <;> rfl

/-- The caller of a picker chooses what is listed. -/
theorem scope_ne_fixed (source : LookupSource) : source.listSpec.scope ≠ .fixed := by
  rw [scope_eq]
  exact Scope.noConfusion

/-- A picker leaves out deleted rows, and nothing else by itself. -/
theorem base_eq (source : LookupSource) : source.listSpec.base = [.notDeleted] := by
  cases source <;> rfl

end LookupSource

/-- What a picker knows of a row. -/
structure PickerRow where
  id : Int
  name : Option String
  deleted : Option Bool
deriving Repr, DecidableEq

/-- The row as it is shown. -/
def PickerRow.entry (r : PickerRow) : LookupEntry :=
  ⟨r.id, r.name.getD noName⟩

namespace Tables

/-- The rows of the table behind a picker. -/
def pickerRows (t : Tables) : LookupSource → List PickerRow
  | .userStatus => t.statuses.map fun s => ⟨s.id, s.status, s.deleted⟩
  | .user => t.users.map fun u => ⟨u.id, u.pickerName, u.deleted⟩
  | .menuModule => t.modules.map fun m => ⟨m.id, m.displayText, m.deleted⟩

/-- The picker lists these rows with these numbers under these columns, and `view` is what it knows of a
row. -/
structure IsPickerOf {ρ : Type} (t : Tables) (source : LookupSource) (number : ρ → Int)
    (columns : ColumnMap ρ) (rows : List ρ) (view : ρ → PickerRow) : Prop where
  lookup_eq : ∀ d path, t.lookup source d path =
    (fun l : Listing ρ => ⟨l.rows.map fun r => (view r).entry, l.total⟩) <$>
      path.list number columns d rows
  rows_eq : rows.map view = t.pickerRows source
  served : source.listSpec.IsServed columns
  id_column : columns.lookup "id" = some (.int fun r => some (view r).id)
  deleted_column : columns.lookup "deleted" = some (.bool fun r => (view r).deleted)

/-- The picker of users shows the entries of the users of a directive. -/
theorem lookup_user_eq (t : Tables) (d : Directive) (path : AccessPath) : t.lookup .user d path =
    (fun l : Listing User => ⟨l.rows.map User.entry, l.total⟩) <$>
      path.list User.id User.pickerColumns d t.users := rfl

/-- Every picker lists the rows of its table. -/
theorem exists_isPickerOf (t : Tables) (source : LookupSource) :
    ∃ (ρ : Type) (number : ρ → Int) (columns : ColumnMap ρ) (rows : List ρ) (view : ρ → PickerRow),
      t.IsPickerOf source number columns rows view := by
  cases source with
  | userStatus =>
    exact ⟨_, UserStatus.id, UserStatus.columns, t.statuses, _, fun _ _ => rfl, rfl,
      ListSpec.isServed_of_isSome rfl (by decide), rfl, rfl⟩
  | user =>
    exact ⟨_, User.id, User.pickerColumns, t.users, _, fun _ _ => rfl, rfl,
      User.isServed_picker, rfl, rfl⟩
  | menuModule =>
    exact ⟨_, MenuModule.id, MenuModule.columns, t.modules, _, fun _ _ => rfl, rfl,
      ListSpec.isServed_of_isSome rfl (by decide), rfl, rfl⟩

end Tables

end Backoffice
