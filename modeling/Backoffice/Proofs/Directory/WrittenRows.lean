import Mathlib
import Backoffice.Proofs.Directory.Standing
import Backoffice.Proofs.Query.Params

/-!
# What a write puts into a row

Each way of writing a user is described by the columns of the row that it leaves: those of a registration
(`Tables.of_register`), of an administrator's form for a new user (`Tables.of_addUser`) and of one that
changes a user (`UserEditForm.address_of_applyTo`).  An address of an administrator's form is not blank, and
the role of a registration is one that one can register with; the role of an administrator's form is any
text, and so is the address of a registration.
-/

namespace Backoffice

variable {t t' : Tables} {now : WallTime} {salts : FreshSalts} {actor : Option String} {u user changed : User}

/-! ### Forms -/

/-- An address that a form takes is not blank. -/
theorem Form.not_blank_of_asEmail {v : Json} {email : String} (h : Form.asEmail v = .ok email) :
    Text.strip email ≠ "" := by
  unfold asEmail at h
  obtain ⟨text, -, h⟩ := bind_eq_ok_iff.mp h
  split_ifs at h with hblank
  cases h
  exact hblank

/-- The address of a new user is not blank. -/
theorem NewUserForm.not_blank_of_read {fields : List (String × Json)} {form : NewUserForm}
    (h : read fields = .ok form) : Text.strip form.email ≠ "" := by
  unfold read at h
  simp only [Form.Checked.seq_eq_ok_iff, Form.Checked.map_eq_ok_iff] at h
  obtain ⟨_, _, ⟨_, _, ⟨_, _, ⟨_, _, ⟨_, _, ⟨_, _, ⟨_, _, ⟨email, hemail, rfl⟩, -, rfl⟩, -, rfl⟩, -, rfl⟩,
    -, rfl⟩, -, rfl⟩, -, rfl⟩, -, rfl⟩ := h
  obtain ⟨v, hv⟩ := Form.Slot.of_required_eq_ok hemail
  exact Form.not_blank_of_asEmail hv

/-- The new address of a user who is changed is not blank. -/
theorem UserEditForm.not_blank_of_read {fields : List (String × Json)} {form : UserEditForm}
    {email : String} (h : read fields = .ok form) (hemail : form.email = some email) :
    Text.strip email ≠ "" := by
  unfold read at h
  simp only [Form.Checked.seq_eq_ok_iff, Form.Checked.map_eq_ok_iff] at h
  obtain ⟨_, _, ⟨_, _, ⟨_, _, ⟨_, _, ⟨_, _, ⟨_, _, ⟨_, _, ⟨given, hgiven, rfl⟩, -, rfl⟩, -, rfl⟩, -, rfl⟩,
    -, rfl⟩, -, rfl⟩, -, rfl⟩, -, rfl⟩ := h
  change given = some email at hemail
  subst hemail
  rcases Form.Slot.of_default_eq_ok hgiven with habsent | ⟨v, hv⟩
  · cases habsent
  · obtain ⟨text, hpresent, hsame⟩ := map_eq_ok_iff.mp hv
    cases hsame
    unfold Form.asPresent at hpresent
    split at hpresent
    · cases hpresent
    · exact Form.not_blank_of_asEmail hpresent

/-! ### New rows -/

/-- The columns of a new row that a form decides. -/
structure User.IsNew (u : User) (number : ℤ) (email role : String) (name surname actor : Option String) :
    Prop where
  id : u.id = number
  email : u.email = normalizeEmail (some email)
  role : u.role = role
  name : u.name = name
  surname : u.surname = surname
  createdBy : u.createdBy = actor

/-- A draft with an address and a role becomes a row with both. -/
theorem Tables.isNew_of_createUser {draft : UserDraft} {email role : String}
    (h : t.createUser now actor draft = .ok (u, t')) (hid : draft.id = none)
    (hemail : draft.email = some email) (hrole : draft.role = some role) :
    u.IsNew t.nextUserId email role draft.name draft.surname actor := by
  unfold createUser at h
  simp only [bind_eq_ok_iff, pure_eq_ok_iff, Prod.mk.injEq] at h
  obtain ⟨_, -, user, huser, _, -, rfl, -⟩ := h
  unfold UserDraft.toUser at huser
  simp only [bind_eq_ok_iff, pure_eq_ok_iff] at huser
  obtain ⟨_, -, _, -, rfl⟩ := huser
  rw [hid, hemail, hrole]
  exact ⟨rfl, rfl, rfl, rfl, rfl, rfl⟩

/-- A registration adds a row with its own address and role, in the name of the address. -/
theorem Tables.of_register {form : RegisterForm} (h : t.register now salts form = .ok (u, t')) :
    t' = { t with users := t.users ++ [u] } ∧
      u.IsNew t.nextUserId form.email form.role form.name form.surname (some form.email) := by
  unfold register at h
  simp only [] at h
  split at h
  · rw [bind_eq_ok_iff] at h
    obtain ⟨_, h, -⟩ := h
    cases h
  · rw [bind_eq_ok_iff] at h
    obtain ⟨_, -, hcreate⟩ := h
    exact ⟨(of_createUser hcreate).1, isNew_of_createUser hcreate rfl rfl rfl⟩

/-- An administrator's form adds a row with its address and role, in the name of the administrator. -/
theorem Tables.of_addUser {form : NewUserForm} (h : t.addUser now salts actor form = .ok (u, t')) :
    t' = { t with users := t.users ++ [u] } ∧
      u.IsNew t.nextUserId form.email form.role form.name form.surname actor := by
  unfold addUser at h
  rw [bind_eq_ok_iff] at h
  obtain ⟨_, -, hcreate⟩ := h
  exact ⟨(of_createUser hcreate).1, isNew_of_createUser hcreate rfl rfl rfl⟩

/-! ### Changed rows -/

/-- A changed user has the new address, if the form has one, and the name of whoever changed it. -/
theorem UserEditForm.address_of_applyTo {form : UserEditForm}
    (h : form.patch.applyTo user now actor = .ok changed) :
    changed.email = (form.email.elim user.email fun email => normalizeEmail (some email)) ∧
      changed.updatedBy = actor := by
  rw [applyTo_patch] at h
  cases h
  exact ⟨rfl, rfl⟩

/-- Marking a user as deleted changes the row of the user, and names in it who has deleted the user. -/
theorem Tables.exists_changes_softDeleteUser (hnumbers : t.HasDistinctNumbers) (hmem : user ∈ t.users)
    (now : WallTime) (actor : Option String) : ∃ row,
      Changes user row t.users (t.softDeleteUser now actor user).2.users ∧ row.deleted = some true ∧
        row.deletedBy = actor :=
  ⟨_, changes_replaceUser hnumbers hmem _, rfl, rfl⟩

/-- What is in the table after a change is the changed row, or was there before. -/
theorem Tables.of_mem_replaceUser {n : ℤ} (h : u ∈ (t.replaceUser n changed).users) :
    u = changed ∨ u ∈ t.users := by
  obtain ⟨old, hold, rfl⟩ := List.mem_map.mp h
  split_ifs
  · exact .inl rfl
  · exact .inr hold

/-! ### Blank addresses -/

/-- A blank address has the empty normal form. -/
theorem normalizeEmail_of_blank {email : String} (h : Text.strip email = "") :
    normalizeEmail (some email) = "" := by
  change Text.lower (Text.strip email) = ""
  rw [h]
  rfl

/-- Nobody is found by a blank address. -/
theorem Tables.userByEmail?_of_blank {email : String} (h : Text.strip email = "") (t : Tables) :
    t.userByEmail? (some email) = none := by
  unfold userByEmail?
  exact if_pos (normalizeEmail_of_blank h)

end Backoffice
