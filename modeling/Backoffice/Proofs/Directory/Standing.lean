import Mathlib
import Backoffice.Proofs.Directory.DeletedRows

/-!
# Users behind principals

A principal is made from the row of a user who is live and active, with the role of the row.  The lemmas
of this module say which writes leave a row such that it still backs the principal: all but those that
mark the user as deleted, make the user inactive or give the user another role.
-/

namespace Backoffice

/-- The user is as the principal says: neither deleted nor inactive, and of its role. -/
def User.Backs (u : User) (p : Principal) : Prop :=
  u.isLive = true ∧ u.isActive = true ∧ u.role = p.role

/-- The one row of the principal's user backs the principal. -/
def Tables.Backs (t : Tables) (p : Principal) : Prop :=
  ∃ u, t.users.filter (·.id = p.userId) = [u] ∧ u.Backs p

/-- The user as the form leaves it: what the form gives, what it does not give as it was, and who has changed
the user when. -/
def UserEditForm.edited (form : UserEditForm) (u : User) (now : WallTime) (actor : Option String) : User :=
  { u with
    email := form.email.elim u.email fun email => normalizeEmail (some email)
    name := form.name.getD u.name
    surname := form.surname.getD u.surname
    phoneNumber := form.phoneNumber.getD u.phoneNumber
    role := form.role.getD u.role
    isActive := form.isActive.getD u.isActive
    statusId := form.statusId.getD u.statusId
    changePassword := form.changePassword.getD u.changePassword
    updatedBy := actor
    updatedAt := some now }

/-- A column that must not be null takes the value that is given, if one is. -/
theorem UserPatch.required_map_some {α : Type} (given : Option α) (old : α) :
    required (given.map some) old = .ok (given.getD old) := by
  cases given <;> rfl

/-- The changes of a form can be made to any user. -/
theorem UserEditForm.applyTo_patch (form : UserEditForm) (u : User) (now : WallTime)
    (actor : Option String) : form.patch.applyTo u now actor = .ok (form.edited u now actor) := by
  unfold UserPatch.applyTo patch
  simp only [UserPatch.required_map_some, ok_bind]
  unfold edited
  cases form.email <;> rfl

/-- A changed user keeps the columns that the form leaves out, and those that it does not have. -/
theorem UserEditForm.of_applyTo {form : UserEditForm} {user changed : User} {now : WallTime}
    {actor : Option String} (h : form.patch.applyTo user now actor = .ok changed) :
    changed.id = user.id ∧ changed.deleted = user.deleted ∧
      changed.isActive = form.isActive.getD user.isActive ∧ changed.role = form.role.getD user.role := by
  rw [applyTo_patch] at h
  cases h
  exact ⟨rfl, rfl, rfl, rfl⟩

/-- The form takes from a user what the principal says: it makes the user inactive or gives another role. -/
def UserEditForm.Strips (form : UserEditForm) (p : Principal) : Prop :=
  form.isActive = some false ∨ ∃ role, form.role = some role ∧ role ≠ p.role

/-- A user who is changed by a form that takes nothing away still backs the principal. -/
theorem User.Backs.of_applyTo {form : UserEditForm} {user changed : User} {now : WallTime}
    {actor : Option String} {p : Principal} (h : user.Backs p)
    (happly : form.patch.applyTo user now actor = .ok changed) (hkept : ¬ form.Strips p) :
    changed.Backs p := by
  obtain ⟨-, hdeleted, hactive, hrole⟩ := UserEditForm.of_applyTo happly
  obtain ⟨hlive, hwas, hsame⟩ := h
  unfold UserEditForm.Strips at hkept
  rw [not_or, not_exists] at hkept
  refine ⟨?_, ?_, ?_⟩
  · unfold User.isLive at hlive ⊢
    rwa [hdeleted]
  · rw [hactive]
    cases hgiven : form.isActive with
    | none => exact hwas
    | some active =>
      cases active with
      | false => exact absurd hgiven hkept.1
      | true => rfl
  · rw [hrole]
    cases hgiven : form.role with
    | none => exact hsame
    | some role =>
      by_contra hne
      exact hkept.2 role ⟨hgiven, hne⟩

/-- A user who is changed by a form that takes something away does not back the principal. -/
theorem UserEditForm.Strips.not_backs {form : UserEditForm} {user changed : User} {now : WallTime}
    {actor : Option String} {p : Principal} (h : form.Strips p)
    (happly : form.patch.applyTo user now actor = .ok changed) : ¬ changed.Backs p := by
  obtain ⟨-, -, hactive, hrole⟩ := UserEditForm.of_applyTo happly
  rintro ⟨-, hactive', hrole'⟩
  rcases h with hinactive | ⟨role, hgiven, hne⟩
  · rw [hinactive] at hactive
    cases hactive.symm.trans hactive'
  · rw [hgiven] at hrole
    exact hne (hrole.symm.trans hrole')

namespace Tables

variable {t t' : Tables} {user changed : User} {p : Principal}

/-- Where the numbers of users are different, there is one row under the number of a user. -/
theorem exists_filter_number_eq {n : ℤ} (h : t.HasDistinctNumbers) (hn : n ∈ t.users.map (·.id)) :
    ∃ u, t.users.filter (·.id = n) = [u] := by
  obtain ⟨u, hu, rfl⟩ := List.mem_map.mp hn
  exact ⟨u, filter_number_eq h hu⟩

/-- The row that backs the principal is one of its user. -/
theorem Backs.exists_mem (h : t.Backs p) : ∃ u ∈ t.users, u.id = p.userId ∧ u.Backs p := by
  obtain ⟨u, hrow, hbacks⟩ := h
  have hu : u ∈ t.users.filter (·.id = p.userId) := by
    rw [hrow]
    exact List.mem_singleton_self u
  obtain ⟨hmem, hid⟩ := List.mem_filter.mp hu
  exact ⟨u, hmem, of_decide_eq_true hid, hbacks⟩

/-- Where users have different numbers, a row that backs the principal is the one row of its user. -/
theorem backs_iff (h : t.HasDistinctNumbers) :
    t.Backs p ↔ ∃ u ∈ t.users, u.id = p.userId ∧ u.Backs p := by
  refine ⟨Backs.exists_mem, ?_⟩
  rintro ⟨u, hmem, hid, hbacks⟩
  refine ⟨u, ?_, hbacks⟩
  rw [← hid]
  exact filter_number_eq h hmem

/-- If there is a live user of a number, then one is found. -/
theorem exists_userById {n : ℤ} (hstorable : fitsWord n = true) (hmem : user ∈ t.users) (hid : user.id = n)
    (hlive : user.isLive = true) : ∃ u, t.userById n = .ok u := by
  obtain ⟨v, hv⟩ : ∃ v, t.users.find? (fun v => v.id = n && v.isLive) = some v := by
    rw [← Option.isSome_iff_exists, List.find?_isSome]
    exact ⟨user, hmem, Bool.and_eq_true_iff.mpr ⟨decide_eq_true hid, hlive⟩⟩
  refine ⟨v, ?_⟩
  unfold userById userById? requireStorable
  rw [if_pos hstorable]
  simp only [ok_bind, hv]
  rfl

/-- The user whom a principal stands for is found by its number. -/
theorem Backs.exists_userById (h : t.Backs p) (hstorable : fitsWord p.userId = true) :
    ∃ u, t.userById p.userId = .ok u := by
  obtain ⟨u, hmem, hid, hbacks⟩ := h.exists_mem
  exact Tables.exists_userById hstorable hmem hid hbacks.1

/-- The user of credentials is live and active. -/
theorem of_userByCredentials {email password : String}
    (h : t.userByCredentials email password = .ok user) : user.isLive = true ∧ user.isActive = true := by
  have hfound := userByEmail?_of_userByCredentials h
  constructor
  · unfold userByEmail? at hfound
    dsimp only at hfound
    split_ifs at hfound
    have hprop := List.find?_some hfound
    rw [Bool.and_eq_true] at hprop
    exact hprop.2
  · unfold userByCredentials at h
    rw [hfound] at h
    cases hactive : user.isActive with
    | true => rfl
    | false => simp [hactive, bind, Except.bind] at h

/-- A new user changes nothing for the others. -/
theorem Backs.createUser {now : WallTime} {actor : Option String} {draft : UserDraft} {u : User}
    (hnumbers : t.HasDistinctNumbers) (h : t.Backs p)
    (hcreate : t.createUser now actor draft = .ok (u, t')) : t'.Backs p := by
  have hnumbers' := hnumbers.createUser hcreate
  obtain ⟨rfl, -, -⟩ := of_createUser hcreate
  obtain ⟨v, hv, hid, hbacks⟩ := (backs_iff hnumbers).mp h
  exact (backs_iff hnumbers').mpr ⟨v, List.mem_append_left _ hv, hid, hbacks⟩

/-- A changed row backs the principal if the row did and the change leaves it so. -/
theorem Backs.replaceUser (hnumbers : t.HasDistinctNumbers) (h : t.Backs p) (hmem : user ∈ t.users)
    (hid : changed.id = user.id) (hkept : user.id = p.userId → user.Backs p → changed.Backs p) :
    (t.replaceUser user.id changed).Backs p := by
  obtain ⟨v, hv, hnumber, hbacks⟩ := (backs_iff hnumbers).mp h
  refine (backs_iff (hnumbers.replaceUser_same hmem hid)).mpr
    ⟨if v.id = user.id then changed else v, List.mem_map_of_mem hv, ?_⟩
  split_ifs with hsame
  · have hrow : v ∈ t.users.filter (·.id = user.id) := List.mem_filter.mpr ⟨hv, decide_eq_true hsame⟩
    rw [filter_number_eq hnumbers hmem, List.mem_singleton] at hrow
    rw [hrow] at hnumber hbacks
    exact ⟨hid.trans hnumber, hkept hnumber hbacks⟩
  · exact ⟨hnumber, hbacks⟩

/-- A row that is changed so that it does not back the principal leaves nobody who does. -/
theorem not_backs_replaceUser (hnumber : user.id = p.userId) (hnot : ¬ changed.Backs p) :
    ¬ (t.replaceUser user.id changed).Backs p := by
  intro h
  obtain ⟨u, hmem, hsame, hbacks⟩ := h.exists_mem
  obtain ⟨v, -, rfl⟩ := List.mem_map.mp hmem
  split_ifs at hsame hbacks with hv
  · exact hnot hbacks
  · exact hv (hsame.trans hnumber.symm)

/-- A changed row leaves the numbers as they are if it keeps its own. -/
theorem map_id_replaceUser (hid : changed.id = user.id) :
    (t.replaceUser user.id changed).users.map (·.id) = t.users.map (·.id) := by
  unfold replaceUser
  rw [List.map_map]
  refine List.map_congr_left fun v _ => ?_
  rw [Function.comp_apply]
  split_ifs with hsame
  · exact hid.trans hsame.symm
  · rfl

end Tables

end Backoffice
