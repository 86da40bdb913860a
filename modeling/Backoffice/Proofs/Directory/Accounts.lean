import Mathlib
import Backoffice.Proofs.Account.Passwords
import Backoffice.Proofs.Directory.Keys

/-!
# Accounts

What a login goes by is the row of a user apart from the columns that logins themselves write, the account
(`User.account`).  A registration that nothing is wrong with adds an account, `Tables.exists_register`; as
long as it is there its owner is known by the credentials, `Tables.HasAccount.exists_userByCredentials`.
-/

namespace Backoffice

/-- The row of a user without what logins note in it. -/
def User.account (u : User) : User :=
  { u with authToken := none, tokenExpiresAt := none, loginDate := none, updatedBy := none }

/-- Two rows with the same account agree in what a login goes by. -/
theorem User.of_account_eq {v u : User} (h : v.account = u.account) :
    v.id = u.id ∧ v.email = u.email ∧ v.isLive = u.isLive ∧ v.isActive = u.isActive ∧ v.role = u.role ∧
      v.salt = u.salt ∧ v.password = u.password := by
  have hsame : ∀ {α : Type} (f : User → α), f v.account = f u.account := fun f => congrArg f h
  exact ⟨hsame User.id, hsame User.email, hsame User.isLive, hsame User.isActive, hsame User.role,
    hsame User.salt, hsame User.password⟩

/-- There is a row with the account of the user. -/
def Tables.HasAccount (t : Tables) (u : User) : Prop :=
  ∃ v ∈ t.users, v.account = u.account

namespace Tables

variable {t t' : Tables} {u user : User} {now : WallTime}

/-! ### Writes that leave an account -/

/-- A new row leaves the accounts of the others. -/
theorem HasAccount.append (h : t.HasAccount u) (new : User) :
    HasAccount { t with users := t.users ++ [new] } u := by
  obtain ⟨v, hv, haccount⟩ := h
  exact ⟨v, List.mem_append_left _ hv, haccount⟩

/-- A login of whomever leaves all accounts. -/
theorem HasAccount.recordLogin (hk : t.Keyed) (h : t.HasAccount u) (hmem : user ∈ t.users) (token : String)
    (expires : WallTime) (actor : String) : (t.recordLogin now user token expires actor).2.HasAccount u := by
  obtain ⟨v, hv, haccount⟩ := h
  by_cases hid : v.id = user.id
  · have hsame : v = user := by
      by_contra hne
      exact (hk.differ hv hmem hne).1 hid
    refine ⟨_, List.mem_map.mpr ⟨v, hv, if_pos hid⟩, ?_⟩
    rw [← haccount, hsame]
    rfl
  · exact ⟨v, List.mem_map.mpr ⟨v, hv, if_neg hid⟩, haccount⟩

/-- An account stays if the rows of its number stay. -/
theorem HasAccount.of_filter_eq (h : t.HasAccount u)
    (hrows : t'.users.filter (·.id = u.id) = t.users.filter (·.id = u.id)) : t'.HasAccount u := by
  obtain ⟨v, hv, haccount⟩ := h
  obtain ⟨hid, -⟩ := User.of_account_eq haccount
  have hrow : v ∈ t'.users.filter (·.id = u.id) := by
    rw [hrows]
    exact List.mem_filter.mpr ⟨hv, decide_eq_true hid⟩
  exact ⟨v, (List.mem_filter.mp hrow).1, haccount⟩

/-! ### Registering and logging in -/

/-- A draft with a new address, a password and a salt, and a status that can be stored, becomes a row. -/
theorem exists_createUser (t : Tables) (now : WallTime) (actor : Option String) (draft : UserDraft)
    {password salt : String} (hid : draft.id = none) (hstatus : ∀ n ∈ draft.statusId, fitsWord n = true)
    (hpassword : draft.password = some password) (hsalt : draft.salt = some salt)
    (hnew : ∀ v ∈ t.users, v.email ≠ normalizeEmail draft.email) :
    ∃ user, draft.toUser t.nextUserId now actor = .ok user ∧
      t.createUser now actor draft = .ok (user, { t with users := t.users ++ [user] }) := by
  obtain ⟨user, huser⟩ : ∃ user, draft.toUser t.nextUserId now actor = .ok user := by
    unfold UserDraft.toUser
    rw [hpassword, hsalt]
    exact ⟨_, rfl⟩
  have hstorable : requireAllStorable (draft.id.toList ++ draft.statusId.toList) = .ok () := by
    refine if_pos (List.all_eq_true.mpr fun n hn => hstatus n ?_)
    rwa [hid, Option.toList_none, List.nil_append, Option.mem_toList] at hn
  have hunique : requireUnique t.users user = .ok () := by
    obtain ⟨hemail, hnumber⟩ := normal_of_toUser huser
    refine requireUnique_eq_ok_iff.mpr fun v hv => ⟨?_, ?_⟩
    · rw [hnumber]
      exact ne_nextUserId hv
    · rw [hemail]
      exact hnew v hv
  refine ⟨user, huser, ?_⟩
  unfold createUser
  rw [hstorable, ok_bind, hid, Option.getD_none, huser, ok_bind, hunique]
  rfl

/-- A registration with a new address and a password that is not too long adds the row of a live and active
user with the address in its normal form, the role of the form and a digest of the password. -/
theorem exists_register {salts : FreshSalts} {form : RegisterForm} (hk : t.Keyed)
    (hnew : ∀ v ∈ t.users, v.email ≠ normalizeEmail (some form.email))
    (hshort : (Password.salted form.password salts.user).length ≤ Password.maxLength) :
    ∃ user, t.register now salts form = .ok (user, { t with users := t.users ++ [user] }) ∧
      user.id = t.nextUserId ∧ user.email = normalizeEmail (some form.email) ∧ user.isLive = true ∧
      user.isActive = true ∧ user.role = form.role ∧
      Password.hash form.password user.salt salts.digest = .ok user.password := by
  obtain ⟨stored, hstored⟩ : ∃ stored, Password.hash form.password salts.user salts.digest = .ok stored :=
    Password.exists_hash hshort
  have hnobody : t.userByEmail? (some form.email) = none := by
    rw [Option.eq_none_iff_forall_ne_some]
    intro v hv
    obtain ⟨-, hmem, -, hemail⟩ := hk.userByEmail?_eq_some_iff.mp hv
    exact hnew v hmem hemail
  obtain ⟨user, huser, hcreate⟩ := exists_createUser t now (some form.email) (form.draft salts.user stored)
    rfl (fun n hn => nomatch hn) rfl rfl hnew
  refine ⟨user, ?_, ?_⟩
  · unfold register
    rw [hnobody]
    simp only [Option.isSome_none, Bool.false_eq_true, if_false]
    rw [hstored, ok_bind]
    exact hcreate
  · cases huser
    exact ⟨rfl, rfl, rfl, rfl, rfl, hstored⟩

/-- An administrator's form with a new address, a password that is not too long, and a status that can be
stored adds a row. -/
theorem exists_addUser (now : WallTime) (salts : FreshSalts) (actor : Option String) (form : NewUserForm)
    (hnew : ∀ v ∈ t.users, v.email ≠ normalizeEmail (some form.email))
    (hstatus : ∀ n ∈ form.statusId, fitsWord n = true)
    (hshort : (Password.salted form.password salts.user).length ≤ Password.maxLength) :
    ∃ user, t.addUser now salts actor form = .ok (user, { t with users := t.users ++ [user] }) := by
  obtain ⟨stored, hstored⟩ : ∃ stored, Password.hash form.password salts.user salts.digest = .ok stored :=
    Password.exists_hash hshort
  obtain ⟨user, -, hcreate⟩ := exists_createUser t now actor (form.draft salts.user stored)
    rfl hstatus rfl rfl hnew
  refine ⟨user, ?_⟩
  unfold addUser
  rw [hstored, ok_bind]
  exact hcreate

/-- The owner of an account of a live and active user is known by the address, in any of its forms, and the
password. -/
theorem HasAccount.exists_userByCredentials (h : t.HasAccount u) (hk : t.Keyed) (hlive : u.isLive = true)
    (hactive : u.isActive = true) {email password : String} (hemail : normalizeEmail (some email) = u.email)
    (hne : u.email ≠ "") (hverified : Password.verify password u.salt u.password = .ok true) :
    ∃ v, t.userByCredentials email password = .ok v ∧ v.account = u.account := by
  obtain ⟨v, hv, haccount⟩ := h
  obtain ⟨-, hemail', hlive', hactive', -, hsalt, hpassword⟩ := User.of_account_eq haccount
  have hfound : t.userByEmail? (some email) = some v := by
    refine hk.userByEmail?_eq_some_iff.mpr ⟨?_, hv, hlive'.trans hlive, ?_⟩
    · rwa [hemail]
    · rw [hemail, hemail']
  refine ⟨v, ?_, haccount⟩
  unfold userByCredentials
  rw [hfound]
  simp only [hactive', hactive, hsalt, hpassword, hverified, ok_bind, Bool.not_true, Bool.false_eq_true, if_false]
  rfl

end Tables

end Backoffice
