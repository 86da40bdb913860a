import Mathlib
import Backoffice.Proofs.Outcome
import Backoffice.Web.Service

/-!
# What each action comes to

An action gives a reply exactly if each of its steps gives a result, and the reply and the next state are
made of these results: there is one equivalence for every action that has steps.  What is done for a
session is what the action comes to, once the session is found.
-/

namespace Backoffice.Web.Service

variable {env : Service} {s next : State} {r : Request} {reply : Reply}

/-! ### Steps that give a result -/

/-- A result that is no failure. -/
theorem orFail_eq_ok_iff {α : Type} {x : Except Failure α} {a : α} : orFail x = .ok a ↔ x = .ok a := by
  cases x <;> simp [orFail]

/-- A result that is no refusal. -/
theorem orRefuse_eq_ok_iff {α : Type} {x : Except Refusal α} {a : α} :
    orRefuse x = .ok a ↔ x = .ok a := by
  cases x <;> simp [orRefuse]

/-- A form without errors. -/
theorem orReject_eq_ok_iff {α : Type} {x : Form.Checked α} {a : α} : orReject x = .ok a ↔ x = .ok a := by
  cases x <;> simp [orReject]

/-! ### Actions -/

/-- A registration is answered once the form is read and the tables take the user. -/
theorem register_eq_ok_iff : env.register s r = .ok (reply, next) ↔ ∃ form user tables,
    readBody RegisterForm.read r = .ok form ∧
      s.tables.register env.now env.salts form = .ok (user, tables) ∧
      reply = .created (.obj [("success", .bool true),
        ("messages", .arr [.str "User successfully created!"])]) ∧ next = { s with tables } := by
  unfold Service.register
  simp only [bind_eq_ok_iff, pure_eq_ok_iff, orReject_eq_ok_iff, orFail_eq_ok_iff]
  constructor
  · rintro ⟨form, hread, ⟨user, tables⟩, hdone, heq⟩
    cases heq
    exact ⟨form, user, tables, hread, hdone, rfl, rfl⟩
  · rintro ⟨form, user, tables, hread, hdone, rfl, rfl⟩
    exact ⟨form, hread, (user, tables), hdone, rfl⟩

/-- A login is answered with the principal. -/
theorem login_eq_ok_iff : env.login s r = .ok (reply, next) ↔ ∃ form principal,
    readBody LoginForm.read r = .ok form ∧ s.login env.settings env.now form = .ok (principal, next) ∧
      reply = .ok principal.view := by
  unfold Service.login
  simp only [bind_eq_ok_iff, pure_eq_ok_iff, orReject_eq_ok_iff, orFail_eq_ok_iff]
  constructor
  · rintro ⟨form, hread, ⟨principal, next'⟩, hdone, heq⟩
    cases heq
    exact ⟨form, principal, hread, hdone, rfl⟩
  · rintro ⟨form, principal, hread, hdone, rfl⟩
    exact ⟨form, hread, (principal, next), hdone, rfl⟩

/-- A list of users is answered as the query lists them. -/
theorem listUsers_eq_ok_iff {params : ListParams} :
    env.listUsers params s = .ok (reply, next) ↔ ∃ directive listing,
      (User.listSpecSortedBy env.userSort).compile env.settings params = .ok directive ∧
        s.tables.listUsers directive env.paths.users = .ok listing ∧
        reply = .ok (s.tables.usersView params listing) ∧ next = s := by
  unfold Service.listUsers
  simp only [bind_eq_ok_iff, pure_eq_ok_iff, orFail_eq_ok_iff]
  constructor
  · rintro ⟨directive, hdirective, listing, hlisting, heq⟩
    cases heq
    exact ⟨directive, listing, hdirective, hlisting, rfl, rfl⟩
  · rintro ⟨directive, listing, hdirective, hlisting, rfl, rfl⟩
    exact ⟨directive, hdirective, listing, hlisting, rfl⟩

/-- A user is added in the name of an administrator. -/
theorem createUser_eq_ok_iff {session : SessionFields} :
    env.createUser session s r = .ok (reply, next) ↔ ∃ form user tables,
      session.requireRole adminRoles = .ok () ∧ readBody NewUserForm.read r = .ok form ∧
        s.tables.addUser env.now env.salts session.actorLabel form = .ok (user, tables) ∧
        reply = .created (tables.userView user) ∧ next = { s with tables } := by
  unfold Service.createUser
  simp only [bind_eq_ok_iff, pure_eq_ok_iff, orReject_eq_ok_iff, orRefuse_eq_ok_iff, orFail_eq_ok_iff]
  constructor
  · rintro ⟨⟨⟩, hpermitted, form, hread, ⟨user, tables⟩, hdone, heq⟩
    cases heq
    exact ⟨form, user, tables, hpermitted, hread, hdone, rfl, rfl⟩
  · rintro ⟨form, user, tables, hpermitted, hread, hdone, rfl, rfl⟩
    exact ⟨(), hpermitted, form, hread, (user, tables), hdone, rfl⟩

/-- A user of the number in the address is shown. -/
theorem getUser_eq_ok_iff {id : String} :
    Service.getUser id s = .ok (reply, next) ↔ ∃ n user,
      readUserId id = .ok n ∧ s.tables.userById n = .ok user ∧
        reply = .ok (s.tables.userView user) ∧ next = s := by
  unfold Service.getUser
  simp only [bind_eq_ok_iff, pure_eq_ok_iff, orReject_eq_ok_iff, orFail_eq_ok_iff]
  constructor
  · rintro ⟨n, hnumber, user, huser, heq⟩
    cases heq
    exact ⟨n, user, hnumber, huser, rfl, rfl⟩
  · rintro ⟨n, user, hnumber, huser, rfl, rfl⟩
    exact ⟨n, hnumber, user, huser, rfl⟩

/-- Two forms that are read side by side. -/
theorem pair_eq_ok_iff {α β : Type} {x : Form.Checked α} {y : Form.Checked β} {a : α} {b : β} :
    Prod.mk <$> x <*> y = .ok (a, b) ↔ x = .ok a ∧ y = .ok b := by
  rw [Form.Checked.seq_eq_ok_iff]
  constructor
  · rintro ⟨f, b', hx, hy, heq⟩
    obtain ⟨a', ha, rfl⟩ := Form.Checked.map_eq_ok_iff.mp hx
    cases heq
    exact ⟨ha, hy⟩
  · rintro ⟨ha, hb⟩
    exact ⟨_, b, Form.Checked.map_eq_ok_iff.mpr ⟨a, ha, rfl⟩, hb, rfl⟩

/-- A user of the number in the address is changed in the name of an administrator. -/
theorem updateUser_eq_ok_iff {session : SessionFields} {id : String} :
    env.updateUser session id s r = .ok (reply, next) ↔ ∃ n form user changed tables,
      session.requireRole adminRoles = .ok () ∧ readUserId id = .ok n ∧
        readBody UserEditForm.read r = .ok form ∧ s.tables.userById n = .ok user ∧
        s.tables.updateUser env.now session.actorLabel user form.patch = .ok (changed, tables) ∧
        reply = .ok (tables.userView changed) ∧ next = { s with tables } := by
  unfold Service.updateUser
  simp only [bind_eq_ok_iff, pure_eq_ok_iff, orReject_eq_ok_iff, orRefuse_eq_ok_iff, orFail_eq_ok_iff]
  constructor
  · rintro ⟨⟨⟩, hpermitted, ⟨n, form⟩, hboth, user, huser, ⟨changed, tables⟩, hdone, heq⟩
    obtain ⟨hnumber, hread⟩ := pair_eq_ok_iff.mp hboth
    cases heq
    exact ⟨n, form, user, changed, tables, hpermitted, hnumber, hread, huser, hdone, rfl, rfl⟩
  · rintro ⟨n, form, user, changed, tables, hpermitted, hnumber, hread, huser, hdone, rfl, rfl⟩
    exact ⟨(), hpermitted, (n, form), pair_eq_ok_iff.mpr ⟨hnumber, hread⟩, user, huser,
      (changed, tables), hdone, rfl⟩

/-- A user of the number in the address is marked as deleted in the name of an administrator. -/
theorem deleteUser_eq_ok_iff {session : SessionFields} {id : String} :
    env.deleteUser session id s = .ok (reply, next) ↔ ∃ n user,
      session.requireRole adminRoles = .ok () ∧ readUserId id = .ok n ∧ s.tables.userById n = .ok user ∧
        reply = .ok (.obj [("status", .str "deleted"), ("id", .int n)]) ∧
        next = { s with tables := (s.tables.softDeleteUser env.now session.actorLabel user).2 } := by
  unfold Service.deleteUser
  simp only [bind_eq_ok_iff, pure_eq_ok_iff, orReject_eq_ok_iff, orRefuse_eq_ok_iff, orFail_eq_ok_iff]
  constructor
  · rintro ⟨⟨⟩, hpermitted, n, hnumber, user, huser, heq⟩
    cases heq
    exact ⟨n, user, hpermitted, hnumber, huser, rfl, rfl⟩
  · rintro ⟨n, user, hpermitted, hnumber, huser, rfl, rfl⟩
    exact ⟨(), hpermitted, n, hnumber, user, huser, rfl⟩

/-- A picker of a known name is answered as its query lists it. -/
theorem listLookup_eq_ok_iff {source : String} {params : ListParams} :
    env.listLookup source params s = .ok (reply, next) ↔ ∃ kind directive listing,
      LookupSource.ofName source = .ok kind ∧ kind.listSpec.compile env.settings params = .ok directive ∧
        s.tables.lookup kind directive (env.paths.picker kind) = .ok listing ∧
        reply = .ok (lookupView listing) ∧ next = s := by
  unfold Service.listLookup
  simp only [bind_eq_ok_iff, pure_eq_ok_iff, orFail_eq_ok_iff]
  constructor
  · rintro ⟨kind, hkind, directive, hdirective, listing, hlisting, heq⟩
    cases heq
    exact ⟨kind, directive, listing, hkind, hdirective, hlisting, rfl, rfl⟩
  · rintro ⟨kind, directive, listing, hkind, hdirective, hlisting, rfl, rfl⟩
    exact ⟨kind, hkind, directive, hdirective, listing, hlisting, rfl⟩

/-- The menu is answered by its groups. -/
theorem showMenu_eq_ok_iff : env.showMenu s = .ok (reply, next) ↔ ∃ groups,
    s.tables.menu env.settings env.paths.menu = .ok groups ∧
      reply = .ok (.arr (groups.map (·.view))) ∧ next = s := by
  unfold Service.showMenu
  simp only [bind_eq_ok_iff, pure_eq_ok_iff, orFail_eq_ok_iff]
  constructor
  · rintro ⟨groups, hgroups, heq⟩
    cases heq
    exact ⟨groups, hgroups, rfl, rfl⟩
  · rintro ⟨groups, hgroups, rfl, rfl⟩
    exact ⟨groups, hgroups, rfl⟩

/-! ### Actions that the tables stop -/

/-- A registration is stopped by what the tables have against it. -/
theorem register_of_error {form : RegisterForm} {f : Failure} (hread : readBody RegisterForm.read r = .ok form)
    (hfailed : s.tables.register env.now env.salts form = .error f) :
    env.register s r = .error (.failed f) := by
  unfold Service.register
  rw [hread]
  simp only [orReject, ok_bind, hfailed]
  rfl

/-- A login is stopped by what stops it in the state. -/
theorem login_of_error {form : LoginForm} {f : Failure} (hread : readBody LoginForm.read r = .ok form)
    (hfailed : s.login env.settings env.now form = .error f) : env.login s r = .error (.failed f) := by
  unfold Service.login
  rw [hread]
  simp only [orReject, ok_bind, hfailed]
  rfl

/-- An administrator's new user is stopped by what the tables have against it. -/
theorem createUser_of_error {session : SessionFields} {form : NewUserForm} {f : Failure}
    (hpermitted : session.requireRole adminRoles = .ok ()) (hread : readBody NewUserForm.read r = .ok form)
    (hfailed : s.tables.addUser env.now env.salts session.actorLabel form = .error f) :
    env.createUser session s r = .error (.failed f) := by
  unfold Service.createUser
  rw [hpermitted, hread]
  simp only [orRefuse, orReject, ok_bind, hfailed]
  rfl

/-- An administrator's change of a user is stopped by what the tables have against it. -/
theorem updateUser_of_error {session : SessionFields} {id : String} {n : ℤ} {form : UserEditForm}
    {user : User} {f : Failure} (hpermitted : session.requireRole adminRoles = .ok ())
    (hnumber : readUserId id = .ok n) (hread : readBody UserEditForm.read r = .ok form)
    (huser : s.tables.userById n = .ok user)
    (hfailed : s.tables.updateUser env.now session.actorLabel user form.patch = .error f) :
    env.updateUser session id s r = .error (.failed f) := by
  unfold Service.updateUser
  rw [hpermitted, pair_eq_ok_iff.mpr ⟨hnumber, hread⟩]
  simp only [orRefuse, orReject, ok_bind, huser, orFail, hfailed]
  rfl

/-! ### Actions for a session -/

variable {sessions : Session.Store} {act : SessionFields → State → Outcome}

/-- Nothing is done for a session that is not there. -/
theorem withSession_of_stranger {refusal : Refusal}
    (hauth : authenticate env.settings env.now r.bearer s.sessions = (.error refusal, sessions)) :
    env.withSession s r act = (.error (.failed (.refused refusal)), { s with sessions }) := by
  unfold withSession
  rw [hauth]

/-- What is done for a session that was found is settled in the state in which it was found. -/
theorem withSession_of_found {session : SessionFields}
    (hauth : authenticate env.settings env.now r.bearer s.sessions = (.ok session, sessions)) :
    env.withSession s r act = settle { s with sessions } (act session { s with sessions }) := by
  unfold withSession
  rw [hauth]

/-- What stops an action for a session that was found stops the request. -/
theorem withSession_of_error {session : SessionFields} {stop : Stop}
    (hauth : authenticate env.settings env.now r.bearer s.sessions = (.ok session, sessions))
    (hact : act session { s with sessions } = .error stop) :
    env.withSession s r act = (.error stop, { s with sessions }) := by
  rw [withSession_of_found hauth, hact]
  rfl

/-- What an action for a session that was found comes to answers the request. -/
theorem withSession_of_done {session : SessionFields}
    (hauth : authenticate env.settings env.now r.bearer s.sessions = (.ok session, sessions))
    (hact : act session { s with sessions } = .ok (reply, next)) :
    env.withSession s r act = (.ok reply, next) := by
  rw [withSession_of_found hauth, hact]
  rfl

/-- What is done for a session, if it is done, is done after the session was found. -/
theorem withSession_of_ok (h : (env.withSession s r act).1 = .ok reply) : ∃ session sessions next,
    authenticate env.settings env.now r.bearer s.sessions = (.ok session, sessions) ∧
      act session { s with sessions } = .ok (reply, next) ∧ (env.withSession s r act).2 = next := by
  rcases hauth : authenticate env.settings env.now r.bearer s.sessions with ⟨refusal | session, sessions⟩
  · rw [withSession_of_stranger hauth] at h
    cases h
  · rw [withSession_of_found hauth] at h ⊢
    cases hact : act session { s with sessions } with
    | error stop =>
      rw [hact] at h
      cases h
    | ok done =>
      rw [hact] at h
      cases h
      exact ⟨session, sessions, done.2, rfl, hact, rfl⟩

end Backoffice.Web.Service
