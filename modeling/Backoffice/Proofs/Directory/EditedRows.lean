import Mathlib
import Backoffice.Proofs.Directory.Standing
import Backoffice.Proofs.Fields
import Backoffice.Proofs.Query.Params

/-!
# What an edit leaves of a row

A form that changes a user tells a field that is null from one that is not there.  A row that was edited with
the fields of a form has in each column what the fields give under its name, and without such a field what it
had before; the columns of no field stay, but for those that say who has changed the row when
(`User.isEditOf_edited`).
-/

namespace Backoffice

/-- What a column holds after the fields were written to it: the value that they give under its name, and
without one what it held before. -/
def Form.Writes {α : Type} (fields : List (String × Json)) (name : String) (read : Json → Except Fault α)
    (old new : α) : Prop :=
  match fields.lookup name with
  | none => new = old
  | some v => read v = .ok new

/-- A text taken for an address, in the form in which addresses are stored. -/
def Form.asStoredAddress (v : Json) : Except Fault String :=
  (fun s => normalizeEmail (some s)) <$> asText v

/-- The row is that of the user after the fields were written to it, by the actor. -/
structure User.IsEditOf (row u : User) (fields : List (String × Json)) (now : WallTime)
    (actor : Option String) : Prop where
  email : Form.Writes fields "email" Form.asStoredAddress u.email row.email
  name : Form.Writes fields "name" (Form.orNull Form.asText) u.name row.name
  surname : Form.Writes fields "surname" (Form.orNull Form.asText) u.surname row.surname
  phoneNumber : Form.Writes fields "phone_number" (Form.orNull Form.asText) u.phoneNumber row.phoneNumber
  role : Form.Writes fields "role" Form.asText u.role row.role
  isActive : Form.Writes fields "is_active" Form.asBool u.isActive row.isActive
  statusId : Form.Writes fields "status_id" (Form.orNull Form.asInt) u.statusId row.statusId
  changePassword : Form.Writes fields "change_password" Form.asBool u.changePassword row.changePassword
  others : row = { u with
    email := row.email
    name := row.name
    surname := row.surname
    phoneNumber := row.phoneNumber
    role := row.role
    isActive := row.isActive
    statusId := row.statusId
    changePassword := row.changePassword
    updatedBy := actor
    updatedAt := some now }

namespace Form

variable {α β : Type} {fields : List (String × Json)} {name : String}

/-- A value that is given and must not be null is read as it is. -/
theorem of_asPresent {read : Json → Except Fault α} {v : Json} {a : α} (h : asPresent read v = .ok a) :
    read v = .ok a := by
  unfold asPresent at h
  split at h
  · cases h
  · exact h

/-- An address of a form is a text. -/
theorem asText_of_asEmail {v : Json} {email : String} (h : asEmail v = .ok email) :
    asText v = .ok email := by
  unfold asEmail at h
  obtain ⟨text, htext, h⟩ := bind_eq_ok_iff.mp h
  split_ifs at h
  cases h
  exact htext

/-- A field that may be left out writes its value to a column, where it does not leave it. -/
theorem writes_of_default {read : Json → Except Fault α} {write : Json → Except Fault β} {f : α → β}
    {change : Option α} {old : β}
    (h : (find [name] fields).default none (UserEditForm.given read) = .ok change)
    (hwrite : ∀ v a, read v = .ok a → write v = .ok (f a)) :
    Writes fields name write old (change.elim old f) := by
  rw [find_singleton] at h
  unfold Writes
  cases hlookup : fields.lookup name with
  | none =>
    rw [hlookup] at h
    cases h
    rfl
  | some v =>
    rw [hlookup, Slot.default_eq_ok_iff] at h
    obtain ⟨a, ha, rfl⟩ := map_eq_ok_iff.mp h
    exact hwrite v a ha

/-- A field that may be left out writes its value as it is. -/
theorem writes_of_getD {read write : Json → Except Fault α} {change : Option α} {old : α}
    (h : (find [name] fields).default none (UserEditForm.given read) = .ok change)
    (hwrite : ∀ v a, read v = .ok a → write v = .ok a) :
    Writes fields name write old (change.getD old) := by
  have hwrites : Writes fields name write old (change.elim old id) := writes_of_default h hwrite
  cases change <;> exact hwrites

end Form

/-- A user who is edited by a form is edited by its fields. -/
theorem User.isEditOf_edited {fields : List (String × Json)} {form : UserEditForm}
    (h : UserEditForm.read fields = .ok form) (u : User) (now : WallTime) (actor : Option String) :
    (form.edited u now actor).IsEditOf u fields now actor := by
  unfold UserEditForm.read at h
  simp only [Form.Checked.seq_eq_ok_iff, Form.Checked.map_eq_ok_iff] at h
  obtain ⟨_, _, ⟨_, _, ⟨_, _, ⟨_, _, ⟨_, _, ⟨_, _, ⟨_, _, ⟨_, hemail, rfl⟩, hname, rfl⟩, hsurname, rfl⟩,
    hphone, rfl⟩, hrole, rfl⟩, hactive, rfl⟩, hstatus, rfl⟩, hpassword, rfl⟩ := h
  refine ⟨Form.writes_of_default hemail fun v text htext => ?_,
    Form.writes_of_getD hname fun v a ha => ha,
    Form.writes_of_getD hsurname fun v a ha => ha,
    Form.writes_of_getD hphone fun v a ha => ha,
    Form.writes_of_getD hrole fun v a ha => Form.of_asPresent ha,
    Form.writes_of_getD hactive fun v a ha => Form.of_asPresent ha,
    Form.writes_of_getD hstatus fun v a ha => ha,
    Form.writes_of_getD hpassword fun v a ha => Form.of_asPresent ha, rfl⟩
  exact map_eq_ok_iff.mpr ⟨text, Form.asText_of_asEmail (Form.of_asPresent htext), rfl⟩

/-! ### Forms that can be carried out -/

/-- Nothing about the tables keeps the user from being edited by the form: the number of the status can be
stored, and the address is that of no other user. -/
structure UserEditForm.Fits (form : UserEditForm) (t : Tables) (u : User) : Prop where
  status : ∀ n ∈ form.statusId.join, fitsWord n = true
  address : ∀ email ∈ form.email, ∀ v ∈ t.users, v.id ≠ u.id → v.email ≠ normalizeEmail (some email)

namespace Tables

variable {t : Tables} {u : User} {form : UserEditForm}

/-- A user is edited by a form that fits. -/
theorem updateUser_of_fits (hk : t.Keyed) (hmem : u ∈ t.users) (hfits : form.Fits t u) (now : WallTime)
    (actor : Option String) : t.updateUser now actor u form.patch =
      .ok (form.edited u now actor, t.replaceUser u.id (form.edited u now actor)) := by
  have hstorable : requireAllStorable (form.patch.id.join.toList ++ form.patch.statusId.join.toList) =
      .ok () := by
    unfold requireAllStorable
    rw [if_pos]
    refine List.all_eq_true.mpr fun n hn => hfits.status n ?_
    exact Option.mem_toList.mp hn
  have hunique : requireUnique (t.users.filter (·.id ≠ u.id)) (form.edited u now actor) = .ok () := by
    refine requireUnique_eq_ok_iff.mpr fun v hv => ?_
    obtain ⟨hv, hid⟩ := List.mem_filter.mp hv
    have hne : v.id ≠ u.id := of_decide_eq_true hid
    refine ⟨hne, ?_⟩
    unfold UserEditForm.edited
    cases hemail : form.email with
    | none => exact (hk.differ hv hmem fun h => hne (congrArg User.id h)).2
    | some email => exact hfits.address email hemail v hv hne
  unfold updateUser
  rw [hstorable, form.applyTo_patch]
  simp only [ok_bind, hunique]
  rfl

/-- A live user is found by its number. -/
theorem userById_of_mem (hnumbers : t.HasDistinctNumbers) (hstorable : fitsWord u.id = true)
    (hmem : u ∈ t.users) (hlive : u.isLive = true) : t.userById u.id = .ok u := by
  obtain ⟨v, hv⟩ := exists_userById hstorable hmem rfl hlive
  obtain ⟨hvmem, hid, -⟩ := mem_of_userById hv
  have hrow : v ∈ t.users.filter (·.id = u.id) := List.mem_filter.mpr ⟨hvmem, decide_eq_true hid⟩
  rw [filter_number_eq hnumbers hmem, List.mem_singleton] at hrow
  rw [hv, hrow]

/-- A number that cannot be stored is not looked for. -/
theorem userById_of_unstorable {n : ℤ} (hunstorable : fitsWord n = false) :
    t.userById n = .error (.overflow .parameter) := by
  unfold userById userById? requireStorable
  rw [hunstorable]
  rfl

end Tables

end Backoffice
