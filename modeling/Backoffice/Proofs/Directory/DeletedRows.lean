import Mathlib
import Backoffice.Proofs.Directory.PickerSelection
import Backoffice.Proofs.Directory.Rows

/-!
# Deleted users out of sight

A list of users is the same whether a user that is marked as deleted is in the table or not
(`Tables.listUsers_withoutUser`), and so is every picker that does not ask for the number of the user
(`Tables.lookup_withoutUser`): the row is neither shown nor counted.  Nobody can be found or logged in
under the number or the address of such a user.
-/

namespace Backoffice

namespace Tables

variable {t : Tables} {n : ℤ} {u user : User}

/-! ### Rows of deleted users -/

/-- No users are apart. -/
theorem keyed_of_empty (hempty : t.users = []) : t.Keyed := by
  refine ⟨?_, ?_⟩
  · rw [hempty]
    exact List.Pairwise.nil
  · rw [hempty]
    exact fun u hu => nomatch hu

/-- Users that are apart have different numbers. -/
theorem Keyed.hasDistinctNumbers (hk : t.Keyed) : t.HasDistinctNumbers :=
  List.pairwise_map.mpr (hk.distinct.imp fun h => h.1)

/-- Among users with different numbers, a user is the only one with its number. -/
theorem filter_number_eq (hnumbers : t.HasDistinctNumbers) (hu : u ∈ t.users) :
    t.users.filter (·.id = u.id) = [u] := by
  obtain ⟨before, after, hrows⟩ := List.append_of_mem hu
  unfold HasDistinctNumbers at hnumbers
  rw [hrows] at hnumbers
  have hothers := ne_of_nodup_middle hnumbers
  have hnone : ∀ rows : List User, (∀ v ∈ rows, v.id ≠ u.id) → rows.filter (·.id = u.id) = [] := by
    intro rows hne
    exact List.filter_eq_nil_iff.mpr fun v hv => by simpa using hne v hv
  rw [hrows, List.filter_append, List.filter_cons_of_pos (by simp),
    hnone before fun v hv => hothers v (List.mem_append_left _ hv),
    hnone after fun v hv => hothers v (List.mem_append_right _ hv), List.nil_append]

/-- A row with another number stays when a user is replaced. -/
theorem mem_replaceUser_of_ne (hu : u ∈ t.users) (hne : u.id ≠ n) (changed : User) :
    u ∈ (t.replaceUser n changed).users :=
  List.mem_map.mpr ⟨u, hu, if_neg hne⟩

/-- A user that is marked as deleted is not a live one, nor has it the number of a live one. -/
theorem Keyed.id_ne_of_deleted (hk : t.Keyed) (hu : u ∈ t.users) (hdeleted : u.deleted = some true)
    (huser : user ∈ t.users) (hlive : user.isLive = true) : u.id ≠ user.id := by
  refine (hk.differ hu huser ?_).1
  rintro rfl
  unfold User.isLive at hlive
  rw [hdeleted] at hlive
  cases hlive

/-- A number under which a user is found fits the table. -/
theorem fitsWord_of_userById (h : t.userById n = .ok user) : fitsWord n = true := by
  unfold userById userById? requireStorable at h
  split_ifs at h with hstorable
  · exact hstorable
  · cases h

/-- Nobody is found under the number of a user that is marked as deleted. -/
theorem userById_of_deleted (hstorable : fitsWord n = true)
    (hdeleted : ∀ u ∈ t.users, u.id = n → u.deleted = some true) :
    t.userById n = .error (.refused .userNotFound) := by
  have hnone : t.users.find? (fun u => u.id = n && u.isLive) = none := by
    rw [List.find?_eq_none]
    intro u hu hfound
    rw [Bool.and_eq_true, decide_eq_true_eq] at hfound
    obtain ⟨hid, hlive⟩ := hfound
    unfold User.isLive at hlive
    rw [hdeleted u hu hid] at hlive
    cases hlive
  unfold userById userById? requireStorable
  rw [if_pos hstorable, ok_bind, hnone]
  rfl

/-- Nobody is logged in with the address of a user that is marked as deleted. -/
theorem Keyed.userByCredentials_of_deleted (hk : t.Keyed) (hu : u ∈ t.users)
    (hdeleted : u.deleted = some true) {email : String} (hemail : normalizeEmail (some email) = u.email)
    (password : String) : t.userByCredentials email password = .error (.refused .invalidCredentials) := by
  have hnone : t.userByEmail? (some email) = none := by
    rw [Option.eq_none_iff_forall_ne_some]
    intro v hv
    obtain ⟨-, hmem, hlive, hsame⟩ := hk.userByEmail?_eq_some_iff.mp hv
    have hne : u ≠ v := by
      intro heq
      exact hk.id_ne_of_deleted hu hdeleted hmem hlive (congrArg User.id heq)
    exact (hk.differ hu hmem hne).2 (hemail.symm.trans hsame.symm)
  unfold userByCredentials
  rw [hnone]

/-! ### Lists without the row of a deleted user -/

variable {settings : Settings} {p : ListParams} {d : Directive}

/-- The tables without the users of a number. -/
def withoutUser (t : Tables) (n : ℤ) : Tables :=
  { t with users := t.users.filter (·.id ≠ n) }

/-- A directive that keeps no user of a number lists the same users without them. -/
theorem list_withoutUser {path : AccessPath} {columns : ColumnMap User} (hnumbers : t.HasDistinctNumbers)
    (hhidden : ∀ u ∈ t.users, u.id = n → d.keeps columns u ≠ true) :
    path.list User.id columns d (t.withoutUser n).users = path.list User.id columns d t.users := by
  refine Directive.list_congr ?_
  unfold withoutUser
  rw [path.visit_filter hnumbers, List.filter_filter]
  refine List.filter_congr fun u hu => ?_
  have hmem : u ∈ t.users := (path.visit_perm _ _ _ _).mem_iff.mp hu
  by_cases hid : u.id = n
  · rw [Bool.not_eq_true _ |>.mp (hhidden u hmem hid), Bool.false_and]
  · rw [decide_eq_true hid, Bool.and_true]

/-- A list of users neither shows nor counts a user that is marked as deleted. -/
theorem listUsers_withoutUser {path : AccessPath} {sort : String} (hnumbers : t.HasDistinctNumbers)
    (hdeleted : ∀ u ∈ t.users, u.id = n → u.deleted = some true)
    (hd : (User.listSpecSortedBy sort).compile settings p = .ok d) :
    (t.withoutUser n).listUsers d path = t.listUsers d path := by
  have hmem : Node.notDeleted ∈ d.predicates := by
    obtain ⟨equality, ranges, days, hcompiled⟩ := ListSpec.exists_compiled rfl hd
    rw [hcompiled.predicates_eq]
    simp [User.listSpecSortedBy]
  refine list_withoutUser hnumbers fun u hu hid hkeeps => ?_
  exact ListSpec.not_deleted_of_keeps hmem rfl hkeeps (hdeleted u hu hid)

/-- A picker neither shows nor counts a user that is marked as deleted, unless it asks for the number of
the user. -/
theorem lookup_withoutUser {path : AccessPath} {source : LookupSource} (hnumbers : t.HasDistinctNumbers)
    (hdeleted : ∀ u ∈ t.users, u.id = n → u.deleted = some true)
    (hd : source.listSpec.compile settings p = .ok d)
    (hids : ∀ ids, decodeSelectedIds p.selectedIds = .ok ids → n ∉ ids) :
    (t.withoutUser n).lookup source d path = t.lookup source d path := by
  cases source with
  | userStatus => rfl
  | menuModule => rfl
  | user =>
    have hnumber : User.pickerColumns.lookup "id" = some (.int fun u => some u.id) := rfl
    have hmark : User.pickerColumns.lookup "deleted" = some (.bool User.deleted) := rfl
    obtain ⟨ids, d₀, hdecoded, -, hkeeps, hlive⟩ :=
      ListSpec.keeps_selected (LookupSource.scope_eq _) (LookupSource.base_eq _) hnumber hmark hd
    have hlist : path.list User.id User.pickerColumns d (t.withoutUser n).users =
        path.list User.id User.pickerColumns d t.users := by
      refine list_withoutUser hnumbers fun u hu hid hkept => ?_
      rcases (hkeeps u).mp hkept with hkept | hselected
      · exact hlive u hkept (hdeleted u hu hid)
      · exact hids ids hdecoded (hid ▸ hselected)
    rw [lookup_user_eq, lookup_user_eq, hlist]

end Tables

end Backoffice
