import Mathlib
import Backoffice.Proofs.Directory.Serving
import Backoffice.Proofs.Query.Compile
import Backoffice.Proofs.Table.AccessPath
import Backoffice.Proofs.Table.Filters
import Backoffice.Proofs.Table.Listing
import Backoffice.Directory.UserList

/-!
# Which users a list request shows

A reading of list requests on users without predicates, conditions and cells: `User.Wanted` says which
users a request is about, and `User.notAfter` in which order they come.  A request that compiles is
answered with a page of exactly those users in that order, and with their number.
-/

namespace Backoffice

/-- An equality filter that a list of users understands: it is on a number of the user, and its own
number fits 64 bits. -/
def EqualityFilter.IsOnUser (f : EqualityFilter) : Prop :=
  f.fieldName ∈ ["id", "status_id"] ∧ ∀ n ∈ f.matchValue, fitsWord n = true

instance (f : EqualityFilter) : Decidable f.IsOnUser :=
  inferInstanceAs (Decidable
    (f.fieldName ∈ ["id", "status_id"] ∧ ∀ n ∈ f.matchValue, fitsWord n = true))

/-- A date range filter that a list of users understands: it is on a time of the user, and its bounds
have no offset, as the times of users have none. -/
def DateRangeFilter.IsOnUser (f : DateRangeFilter) : Prop :=
  f.fieldName ∈ ["login_date", "created_at", "updated_at"] ∧ f.IsOffsetFree

instance (f : DateRangeFilter) : Decidable f.IsOnUser :=
  inferInstanceAs (Decidable
    (f.fieldName ∈ ["login_date", "created_at", "updated_at"] ∧ f.IsOffsetFree))

namespace User

/-! ### Wanted users -/

/-- The number of the user that an equality filter is about. -/
def number? (u : User) : String → Option Int
  | "id" => some u.id
  | "status_id" => u.statusId
  | _ => none

/-- The time of the user that a date range filter is about. -/
def time? (u : User) : String → Option WallTime
  | "login_date" => u.loginDate
  | "created_at" => u.createdAt
  | "updated_at" => u.updatedAt
  | _ => none

section Wanted

variable (same : Char → Char → Prop)

/-- The term is a part of the e-mail address, of the name, of the surname, or of name and surname with a
blank between them, where `same` says which characters count as the same. -/
def Mentions (u : User) (term : String) : Prop :=
  Text.HasPart same term u.email ∨ (∃ s ∈ u.name, Text.HasPart same term s) ∨
    (∃ s ∈ u.surname, Text.HasPart same term s) ∨ Text.HasPart same term u.spacedName

instance [∀ term text, Decidable (Text.HasPart same term text)] (u : User) (term : String) :
    Decidable (u.Mentions same term) :=
  inferInstanceAs (Decidable (Text.HasPart same term u.email ∨ (∃ s ∈ u.name, Text.HasPart same term s) ∨
    (∃ s ∈ u.surname, Text.HasPart same term s) ∨ Text.HasPart same term u.spacedName))

/-- The user is what a list request asks for: not deleted, with the numbers of all equality filters,
with times that all date range filters cover, and mentioning the search term if there is one. -/
def Wanted (equality : List EqualityFilter) (ranges : List DateRangeFilter) (search : Option String)
    (u : User) : Prop :=
  u.deleted ≠ some true ∧ (∀ f ∈ equality, u.number? f.fieldName = f.matchValue) ∧
    (∀ f ∈ ranges, ∃ w ∈ u.time? f.fieldName, f.Covers w) ∧ ∀ term ∈ search, u.Mentions same term

instance [∀ term text, Decidable (Text.HasPart same term text)] (equality : List EqualityFilter)
    (ranges : List DateRangeFilter) (search : Option String) :
    DecidablePred (Wanted same equality ranges search) := fun u =>
  inferInstanceAs (Decidable (u.deleted ≠ some true ∧
    (∀ f ∈ equality, u.number? f.fieldName = f.matchValue) ∧
    (∀ f ∈ ranges, ∃ w ∈ u.time? f.fieldName, f.Covers w) ∧ ∀ term ∈ search, u.Mentions same term))

end Wanted

/-- The texts of the user that are searched have no null characters. -/
def IsNullFree (u : User) : Prop :=
  '\x00' ∉ u.email.toList ∧ (∀ s ∈ u.name, '\x00' ∉ s.toList) ∧ ∀ s ∈ u.surname, '\x00' ∉ s.toList

instance (u : User) : Decidable u.IsNullFree :=
  inferInstanceAs (Decidable ('\x00' ∉ u.email.toList ∧ (∀ s ∈ u.name, '\x00' ∉ s.toList) ∧
    ∀ s ∈ u.surname, '\x00' ∉ s.toList))

/-- Name and surname together have no null characters if neither has. -/
theorem IsNullFree.spacedName {u : User} (h : u.IsNullFree) : '\x00' ∉ u.spacedName.toList := by
  have horEmpty : ∀ o : Option String, (∀ s ∈ o, '\x00' ∉ s.toList) → '\x00' ∉ (Text.orEmpty o).toList := by
    intro o ho
    cases o with
    | none => decide
    | some s => exact ho s rfl
  have hblank : '\x00' ∉ " ".toList := by decide
  unfold User.spacedName
  simp only [String.toList_append, List.mem_append, not_or]
  exact ⟨⟨horEmpty _ h.2.1, hblank⟩, horEmpty _ h.2.2⟩

/-- The mark of deletion is asked not to be set. -/
theorem holds_notDeleted (u : User) :
    Node.notDeleted.holds columns u = true ↔ u.deleted ≠ some true :=
  Column.meets_bool_isNot_true

/-- The column behind the field of an equality filter. -/
theorem lookup_number {f : EqualityFilter} (h : f.IsOnUser) :
    ∃ read, columns.lookup f.fieldName = some (.int read) ∧ ∀ u, read u = u.number? f.fieldName := by
  have hfield := h.1
  simp only [List.mem_cons, List.not_mem_nil, or_false] at hfield
  rcases hfield with hid | hstatus
  · rw [hid]
    exact ⟨_, rfl, fun _ => rfl⟩
  · rw [hstatus]
    exact ⟨_, rfl, fun _ => rfl⟩

/-- The columns of times. -/
theorem lookup_time {field : String} (h : field ∈ ["login_date", "created_at", "updated_at"]) :
    ∃ read, columns.lookup field = some (.time read) ∧ ∀ u, read u = u.time? field := by
  simp only [List.mem_cons, List.not_mem_nil, or_false] at h
  rcases h with rfl | rfl | rfl
  · exact ⟨_, rfl, fun _ => rfl⟩
  · exact ⟨_, rfl, fun _ => rfl⟩
  · exact ⟨_, rfl, fun _ => rfl⟩

/-- The search asks the user to mention the term. -/
theorem holds_search {u : User} {term : String} {node : Node} (hterm : '\x00' ∉ term.toList)
    (hu : u.IsNullFree) (h : Node.containsAny listSpec.searchFields term = some node) :
    node.holds columns u = true ↔ u.Mentions Text.ReadAlike term := by
  have hemail : ∀ s ∈ some u.email, '\x00' ∉ s.toList := by
    rintro _ ⟨⟩
    exact hu.1
  have hfull : ∀ s ∈ some u.spacedName, '\x00' ∉ s.toList := by
    rintro _ ⟨⟩
    exact hu.spacedName
  have hin : ∀ {field : String} {c : Column User}, columns.lookup field = some c →
      (Node.test field .contains (.text term)).holds columns u = c.meets u .contains (.text term) :=
    fun hc => Node.holds_test hc u
  rw [Node.holds_containsAny h]
  change (∃ f ∈ ["email", "name", "surname", "full_name"], _) ↔ _
  simp only [List.mem_cons, List.not_mem_nil, or_false, exists_eq_or_imp, exists_eq_left]
  rw [hin rfl, hin rfl, hin rfl, hin rfl]
  unfold Mentions
  refine or_congr ?_ (or_congr ?_ (or_congr ?_ ?_))
  · refine (Column.meets_contains _ (fun u : User => some u.email) hterm hemail).trans ?_
    simp
  · exact Column.meets_contains _ User.name hterm hu.2.1
  · exact Column.meets_contains _ User.surname hterm hu.2.2
  · refine (Column.meets_contains _ (fun u : User => some u.spacedName) hterm hfull).trans ?_
    simp

/-! ### The order of users -/

/-- The first user does not come after the second when users are sorted by the field, upward. -/
def notAfter (field : String) (u v : User) : Prop :=
  match field with
  | "id" => u.id ≤ v.id
  | "name" => absentFirst (· ≤ ·) u.name v.name
  | "surname" => absentFirst (· ≤ ·) u.surname v.surname
  | "email" => u.email ≤ v.email
  | "full_name" => u.spacedName ≤ v.spacedName
  | "phone_number" => absentFirst (· ≤ ·) u.phoneNumber v.phoneNumber
  | "role" => u.role ≤ v.role
  | "is_active" => u.isActive ≤ v.isActive
  | "status_id" => absentFirst (· ≤ ·) u.statusId v.statusId
  | "login_date" => absentFirst (fun a b => a.micros ≤ b.micros) u.loginDate v.loginDate
  | "created_at" => absentFirst (fun a b => a.micros ≤ b.micros) u.createdAt v.createdAt
  | "updated_at" => absentFirst (fun a b => a.micros ≤ b.micros) u.updatedAt v.updatedAt
  | _ => False

/-- The first user does not come after the second by the field in the direction. -/
def inDirection (field : String) (ascending : Bool) (u v : User) : Prop :=
  if ascending then notAfter field u v else notAfter field v u

/-- Every field that users can be sorted by has a column, whose cells are ordered as the users are. -/
theorem lookup_sort {field : String} (h : field ∈ listSpec.fields) :
    ∃ c, columns.lookup field = some c ∧
      ∀ u v, (c.cell u).le (c.cell v) = true ↔ notAfter field u v := by
  simp only [listSpec, listSpecSortedBy, List.mem_cons, List.not_mem_nil, or_false] at h
  rcases h with rfl | rfl | rfl | rfl | rfl | rfl | rfl | rfl | rfl | rfl | rfl | rfl
  · exact ⟨_, rfl, fun u v => Cell.ofOption_int_le_iff (some u.id) (some v.id)⟩
  · exact ⟨_, rfl, fun u v => Cell.ofOption_text_le_iff u.name v.name⟩
  · exact ⟨_, rfl, fun u v => Cell.ofOption_text_le_iff u.surname v.surname⟩
  · exact ⟨_, rfl, fun u v => Cell.ofOption_text_le_iff (some u.email) (some v.email)⟩
  · exact ⟨_, rfl, fun u v => Cell.ofOption_text_le_iff (some u.spacedName) (some v.spacedName)⟩
  · exact ⟨_, rfl, fun u v => Cell.ofOption_text_le_iff u.phoneNumber v.phoneNumber⟩
  · exact ⟨_, rfl, fun u v => Cell.ofOption_text_le_iff (some u.role) (some v.role)⟩
  · exact ⟨_, rfl, fun u v => Cell.ofOption_bool_le_iff (some u.isActive) (some v.isActive)⟩
  · exact ⟨_, rfl, fun u v => Cell.ofOption_int_le_iff u.statusId v.statusId⟩
  · exact ⟨_, rfl, fun u v => Cell.ofOption_time_le_iff u.loginDate v.loginDate⟩
  · exact ⟨_, rfl, fun u v => Cell.ofOption_time_le_iff u.createdAt v.createdAt⟩
  · exact ⟨_, rfl, fun u v => Cell.ofOption_time_le_iff u.updatedAt v.updatedAt⟩

/-- The field that accepted parameters sort users by: the requested one, or the name. -/
theorem sortField_eq {requested : Option String} {field : String}
    (hword : Text.nonBlank? requested = requested)
    (h : listSpec.sortField requested = .ok field) :
    field = requested.getD "name" ∧ field ∈ listSpec.fields := by
  unfold ListSpec.sortField at h
  rw [hword] at h
  cases requested with
  | none =>
    have hdefault : Text.nonBlank? (some listSpec.defaultSort) = some "name" := by decide
    rw [hdefault] at h
    cases h
    exact ⟨rfl, by decide⟩
  | some name =>
    simp only [] at h
    split at h
    · rename_i hmem
      cases h
      exact ⟨rfl, hmem⟩
    · cases h

/-! ### The answer to a request -/

section Answer

variable {settings : Settings} {p : ListParams} {d : Directive} {equality : List EqualityFilter}
  {ranges : List DateRangeFilter} {days : List Node}

/-- A compiled directive keeps the users that the request asks for. -/
theorem keeps_iff (hvalid : p.Valid settings) (h : listSpec.Compiled p d equality ranges days)
    (hequality : ∀ f ∈ equality, f.IsOnUser) (hranges : ∀ f ∈ ranges, f.IsOnUser)
    (hsearch : ∀ s ∈ p.search, '\x00' ∉ s.toList) {u : User} (hu : u.IsNullFree) :
    d.keeps columns u = true ↔ Wanted Text.ReadAlike equality ranges p.search u := by
  unfold Directive.keeps
  rw [h.predicates_eq, hvalid.search]
  simp only [List.all_append, Bool.and_eq_true, List.all_eq_true, List.forall_mem_map, and_assoc]
  unfold Wanted
  refine and_congr ?_ (and_congr ?_ (and_congr ?_ ?_))
  · change (∀ n ∈ [Node.notDeleted], _) ↔ _
    rw [List.forall_mem_singleton]
    exact holds_notDeleted u
  · refine forall₂_congr fun f hf => ?_
    obtain ⟨read, hread, heq⟩ := lookup_number (hequality f hf)
    rw [EqualityFilter.holds_predicate hread (isSet_of_decodeEqualityFilters h.equality_eq f hf), heq]
  · refine (forall_mem_iff_of_forall₂ h.days_eq fun f hf n hn => ?_).symm
    obtain ⟨read, hread, heq⟩ := lookup_time (hranges f hf).1
    rw [DateRangeFilter.holds_predicate hread (hranges f hf).2
      (isApplicable_of_decodeDateRanges h.ranges_eq f hf) hn, heq]
  · cases hterm : p.search with
    | none => simp
    | some term =>
      have hne : term ≠ "" := (Text.strip_of_nonBlank? (hterm ▸ hvalid.search)).2
      obtain ⟨node, hnode⟩ : ∃ node, Node.containsAny listSpec.searchFields term = some node := by
        unfold Node.containsAny
        rw [if_neg (by simpa [listSpec, listSpecSortedBy] using hne)]
        exact ⟨_, rfl⟩
      simp only [Option.bind_some, hnode, Option.toList_some, List.forall_mem_singleton,
        Option.mem_some_iff, forall_eq']
      exact holds_search (hsearch term hterm) hu hnode

/-- The columns of users take every predicate of a compiled directive. -/
theorem isSafe_of_compiled (h : listSpec.Compiled p d equality ranges days)
    (hequality : ∀ f ∈ equality, f.IsOnUser) (hranges : ∀ f ∈ ranges, f.IsOnUser) :
    ∀ n ∈ d.predicates, n.IsSafe columns := by
  have hknown : ∀ f ∈ ranges, f.fieldName ∈ listSpec.fields := by
    have htimes : ∀ field ∈ ["login_date", "created_at", "updated_at"], field ∈ listSpec.fields := by
      decide
    exact fun f hf => htimes _ (hranges f hf).1
  intro n hn
  rw [h.predicates_eq] at hn
  rcases isServed_listSpec.isSafe_or h.ranges_eq h.days_eq hknown hn with hsafe | ⟨f, hf, rfl⟩
  · exact hsafe
  · obtain ⟨read, hread, -⟩ := lookup_number (hequality f hf)
    exact EqualityFilter.isSafe_predicate hread (hequality f hf).2

/-- A compiled directive with a page that fits 64 bits can be carried out, and its only sort key is a
column whose cells are ordered as the users are by the field. -/
theorem exists_executable (hvalid : p.Valid settings)
    (h : listSpec.Compiled p d equality ranges days) (hlimit : 1 ≤ p.limit)
    (hlimit' : p.limit ≤ 2 ^ 63 - 1) (hoffset : p.offset ≤ 2 ^ 63 - 1)
    (hequality : ∀ f ∈ equality, f.IsOnUser) (hranges : ∀ f ∈ ranges, f.IsOnUser) :
    ∃ conditions c, d.Executable columns conditions [⟨c, p.sortAscending⟩] ∧
      ∀ u v, (c.cell u).le (c.cell v) = true ↔ notAfter (p.sort.getD "name") u v := by
  obtain ⟨hfield, hmem⟩ := sortField_eq hvalid.sort h.sort_eq
  obtain ⟨c, hc, hle⟩ := lookup_sort hmem
  obtain ⟨conditions, hconditions, hdefect⟩ := Node.exists_conditions (isSafe_of_compiled h hequality hranges)
  have hoffset' := hvalid.offset_nonneg (by omega : 0 ≤ p.limit)
  refine ⟨conditions, c, ⟨hconditions, hdefect, ?_, ?_, ?_⟩, ?_⟩
  · unfold Directive.sortKeys Node.column
    rw [h.thenBy_eq, hc, h.ascending_eq]
    rfl
  · rw [h.limit_eq, fitsWord_iff]
    omega
  · rw [h.offset_eq, fitsWord_iff]
    omega
  · rw [← hfield]
    exact hle

/-- A list request on users that compiles is answered, on whatever path the users are reached.  The total is
the number of the wanted users, and the page is a stretch of a list of exactly these users in the order that
is asked for.  A user mentions a term whose characters are read alike in one of the texts. -/
theorem listUsers_of_compile {t : Tables} {fields : List (String × Json)}
    (hread : ListParams.read settings fields = .ok p) (hlimit : 1 ≤ p.limit)
    (hlimit' : p.limit ≤ 2 ^ 63 - 1) (hoffset : p.offset ≤ 2 ^ 63 - 1)
    (hequality : ∀ filters, decodeEqualityFilters p.lookups = .ok filters → ∀ f ∈ filters, f.IsOnUser)
    (hranges : ∀ filters, decodeDateRanges p.ranges = .ok filters → ∀ f ∈ filters, f.IsOnUser)
    (hsearch : ∀ s ∈ p.search, '\x00' ∉ s.toList) (husers : ∀ u ∈ t.users, u.IsNullFree)
    (hcompile : listSpec.compile settings p = .ok d) (path : AccessPath) :
    ∃ equality ranges listing, ∃ ordered : List User, decodeEqualityFilters p.lookups = .ok equality ∧
      decodeDateRanges p.ranges = .ok ranges ∧ t.listUsers d path = .ok listing ∧
      listing.total = (t.users.filter (Wanted Text.ReadAlike equality ranges p.search)).length ∧
      ordered.Perm (t.users.filter (Wanted Text.ReadAlike equality ranges p.search)) ∧
      ordered.Pairwise (inDirection (p.sort.getD "name") p.sortAscending) ∧
      listing.rows = (ordered.drop p.offset.toNat).take p.limit.toNat := by
  have hvalid := ListParams.valid_of_read hread
  obtain ⟨equality, ranges, days, hcompiled⟩ := ListSpec.exists_compiled rfl hcompile
  have hequality' := hequality equality hcompiled.equality_eq
  have hranges' := hranges ranges hcompiled.ranges_eq
  obtain ⟨conditions, c, hexecutable, hle⟩ :=
    exists_executable hvalid hcompiled hlimit hlimit' hoffset hequality' hranges'
  have hperm := path.visit_perm User.id columns d t.users
  have hkept : (path.visit User.id columns d t.users).filter (d.keeps columns) =
      (path.visit User.id columns d t.users).filter (Wanted Text.ReadAlike equality ranges p.search) := by
    refine List.filter_congr fun u hu => ?_
    rw [Bool.eq_iff_iff, decide_eq_true_eq]
    exact keeps_iff hvalid hcompiled hequality' hranges' hsearch (husers u (hperm.mem_iff.mp hu))
  have hwanted := hperm.filter (Wanted Text.ReadAlike equality ranges p.search)
  refine ⟨equality, ranges, _, Directive.sorted [⟨c, p.sortAscending⟩]
      ((path.visit User.id columns d t.users).filter (Wanted Text.ReadAlike equality ranges p.search)),
    hcompiled.equality_eq, hcompiled.ranges_eq,
    Directive.list_eq_ok_iff.mpr ⟨conditions, _, hexecutable, rfl⟩, ?_, ?_, ?_, ?_⟩
  · rw [hkept]
    exact hwanted.length_eq
  · exact (Directive.sorted_perm _ _).trans hwanted
  · refine (Directive.ordered_sorted _ _).imp fun {u v} huv => ?_
    rw [Directive.SortKey.leBy_singleton, Directive.SortKey.le] at huv
    unfold inDirection
    split at huv
    · rename_i hup
      rw [if_pos hup]
      exact (hle u v).mp huv
    · rename_i hdown
      rw [if_neg hdown]
      exact (hle v u).mp huv
  · rw [hkept, hcompiled.limit_eq, hcompiled.offset_eq, Directive.page_of_nonneg (by omega)]

end Answer

/-- An active user with a number, a name and an e-mail address, created at a time. -/
def named (id : Int) (name email : String) (createdAt : Option WallTime) : User :=
  ⟨id, some name, none, email, "", "", false, none, "USER", true, none, none, none, none, some false,
    none, none, none, createdAt, none, none⟩

/-- A search for a name among the users with the number 1 who were created on the third of January
2024. -/
def searchOfDay : ListParams :=
  ⟨1, 100, none, true, some "ANN", some "[\x7b\"name\":\"id\",\"id\":1\x7d]",
    some "[\x7b\"name\":\"created_at\",\"startDate\":\"2024-01-02\",\"active\":1\x7d]", none⟩

/-- Of two users one is found by the search: the other has another number. -/
theorem listUsers_of_compile_searchOfDay :
    ∃ d listing, listSpec.compile (Settings.standard "" "") searchOfDay = .ok d ∧
      Tables.listUsers ⟨[], [named 1 "Anna" "a@b.c" (some ⟨63839840000000000, by decide⟩),
        named 2 "Hanna" "h@b.c" none], [], []⟩ d = .ok listing ∧ listing.total = 1 := by
  have hread : ListParams.read (Settings.standard "" "")
      [("search", .str " ANN "), ("lookups", .str "[\x7b\"name\":\"id\",\"id\":1\x7d]"),
        ("ranges", .str "[\x7b\"name\":\"created_at\",\"startDate\":\"2024-01-02\",\"active\":1\x7d]")] =
      .ok searchOfDay := rfl
  have hequality : decodeEqualityFilters searchOfDay.lookups = .ok [⟨"id", some 1⟩] := by
    decide +kernel
  have hranges : decodeDateRanges searchOfDay.ranges =
      .ok [⟨"created_at", some ⟨⟨63839750400000000, by decide⟩, none⟩, none, false, true⟩] := by
    decide +kernel
  obtain ⟨d, hd⟩ : ∃ d, listSpec.compile (Settings.standard "" "") searchOfDay = .ok d :=
    exists_eq_ok_of_isOk (by decide +kernel)
  obtain ⟨equality, ranges, listing, ordered, hequality', hranges', hlisting, htotal, -⟩ :=
    listUsers_of_compile (t := ⟨[], [named 1 "Anna" "a@b.c" (some ⟨63839840000000000, by decide⟩),
        named 2 "Hanna" "h@b.c" none], [], []⟩)
      hread (by decide) (by decide) (by decide)
      (fun filters h => by
        cases hequality.symm.trans h
        decide)
      (fun filters h => by
        cases hranges.symm.trans h
        decide)
      (by decide) (by decide) hd .byNumber
  cases hequality.symm.trans hequality'
  cases hranges.symm.trans hranges'
  exact ⟨d, listing, hd, hlisting, htotal.trans (by decide +kernel)⟩

/-- A search for the replacement character. -/
def searchOfReplacement : ListParams :=
  ⟨1, 100, none, true, some "\ufffd", none, none, none⟩

/-- A search for the replacement character lists a user with U+FFFE in the name, who does not mention it. -/
theorem listUsers_searchOfReplacement :
    let settings := Settings.standard "" ""
    let u := named 1 "x\ufffey" "a@b.c" none
    ∃ d listing, ListParams.read settings [("search", .str "\ufffd")] = .ok searchOfReplacement ∧
      listSpec.compile settings searchOfReplacement = .ok d ∧
      decodeEqualityFilters searchOfReplacement.lookups = .ok [] ∧
      decodeDateRanges searchOfReplacement.ranges = .ok [] ∧ u.IsNullFree ∧
      Tables.listUsers ⟨[], [u], [], []⟩ d = .ok listing ∧ listing.total = 1 ∧
      ¬ Wanted Text.SameLetter [] [] searchOfReplacement.search u := by
  intro settings u
  let d : Directive := ⟨[.notDeleted, .any (listSpec.searchFields.map fun f =>
    .test f .contains (.text "\ufffd"))], "name", true, 100, 0, []⟩
  have hchain : listSpec.chain searchOfReplacement = .ok d.predicates :=
    ListSpec.chain_eq_ok_iff.mpr ⟨[], [], [], rfl, rfl, by simp, by simp, .nil, rfl⟩
  have hcompile : listSpec.compile settings searchOfReplacement = .ok d :=
    (ListSpec.compile_eq_ok_iff Scope.noConfusion).mpr ⟨"name", _, rfl, hchain, rfl⟩
  have hvisit : AccessPath.byNumber.visit User.id columns d [u] = [u] :=
    List.perm_singleton.mp (AccessPath.byNumber.visit_perm User.id columns d [u])
  have hkept : [u].filter (d.keeps columns) = [u] := by decide +kernel
  have hlist : d.list columns [u] = .ok ⟨[u], 1⟩ := by
    refine Directive.list_eq_ok_iff.mpr ⟨_, _, ⟨rfl, rfl, rfl, rfl, rfl⟩, ?_⟩
    rw [hkept]
    rfl
  refine ⟨d, ⟨[u], 1⟩, rfl, hcompile, rfl, rfl, by decide, ?_, rfl, by decide +kernel⟩
  unfold Tables.listUsers AccessPath.list
  rw [hvisit, hlist]

end User

end Backoffice
