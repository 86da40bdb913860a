import Mathlib
import Backoffice.Proofs.Directory.WrittenRows
import Backoffice.Proofs.Web.Registration

/-!
# Where rows come from

What a row says after a request was there before, or it comes from a form that was sent to register, to add
a user or to change one (`Service.origin_of_mem`).  What every such form excludes is in no table: an address
is blank only if somebody has registered with a blank one, which the form to register lets pass and the
other two do not, and this is the one user who is not found by the own address
(`Service.ownAddress_of_run`).
-/

namespace Backoffice.Web.Service

variable {env : Service} {s start : State} {r : Request} {row u : User} {steps : List (Service × Request)}

/-! ### Origins -/

/-- A user that was added was added in a session, from the form that was sent and in the name of the
session. -/
theorem addUser_of_reply {reply : Reply} (hasked : r.action? = some .createUser)
    (hreply : (env.carryOut s r).1 = .ok reply) : ∃ form user session,
      readBody NewUserForm.read r = .ok form ∧
      s.tables.addUser env.now env.salts session.actorLabel form = .ok (user, (env.respond s r).2.tables) ∧
      (env.respond s r).1.status = 201 ∧
      (authenticate env.settings env.now r.bearer s.sessions).1 = .ok session := by
  have hperform : env.carryOut s r = env.withSession s r fun session s => env.createUser session s r :=
    carryOut_of_action hasked
  obtain ⟨session, sessions, next, hfound, hact, hnext⟩ := exists_session_of_reply hperform hreply
  rw [status_of_ok hreply, hnext]
  obtain ⟨form, user, tables, -, hform, hadd, rfl, rfl⟩ := createUser_eq_ok_iff.mp hact
  exact ⟨form, user, session, hform, hadd, rfl, congrArg Prod.fst hfound⟩

/-- An administrator who sends a form that can be added adds a user. -/
theorem carryOut_createUser {session : SessionFields} {sessions : Session.Store} {form : NewUserForm}
    {tables : Tables} (hasked : r.action? = some .createUser)
    (hfound : authenticate env.settings env.now r.bearer s.sessions = (.ok session, sessions))
    (hpermitted : session.requireRole adminRoles = .ok ()) (hread : readBody NewUserForm.read r = .ok form)
    (hadd : s.tables.addUser env.now env.salts session.actorLabel form = .ok (u, tables)) :
    env.carryOut s r = (.ok (.created (tables.userView u)), ⟨tables, sessions⟩) := by
  rw [carryOut_of_action hasked]
  change env.withSession s r (fun session s => env.createUser session s r) = _
  exact withSession_of_done hfound
    (createUser_eq_ok_iff.mpr ⟨form, u, tables, hpermitted, hread, hadd, rfl, rfl⟩)

/-- Where the number, the address and the role of a row come from that is there after a request: from a row
that was there before, or from the form of the request, which was carried out. -/
inductive Origin (env : Service) (s : State) (r : Request) (row : User) : Prop
  | kept {old : User} (mem : old ∈ s.tables.users) (id : row.id = old.id) (email : row.email = old.email)
      (role : row.role = old.role)
  | registered {form : RegisterForm} (asked : r.action? = some .register)
      (read : readBody RegisterForm.read r = .ok form) (done : (env.respond s r).1.status = 201)
      (id : row.id = s.tables.nextUserId) (email : row.email = normalizeEmail (some form.email))
      (role : row.role = form.role)
  | created {form : NewUserForm} (asked : r.action? = some .createUser)
      (read : readBody NewUserForm.read r = .ok form) (done : (env.respond s r).1.status = 201)
      (id : row.id = s.tables.nextUserId) (email : row.email = normalizeEmail (some form.email))
      (role : row.role = form.role)
  | changed {id : String} {form : UserEditForm} {old : User} (asked : r.action? = some (.updateUser id))
      (number : readUserId id = .ok row.id) (read : readBody UserEditForm.read r = .ok form)
      (done : (env.respond s r).1.status = 200) (mem : old ∈ s.tables.users) (same : row.id = old.id)
      (email : row.email = form.email.elim old.email fun email => normalizeEmail (some email))
      (role : row.role = form.role.getD old.role)

/-- Every row has an origin. -/
theorem origin_of_mem (h : row ∈ (env.respond s r).2.tables.users) : env.Origin s r row := by
  -- only a request that is answered as carried out writes rows, and each kind of them in its own way
  rcases exists_reply_or_tables_eq env s r with ⟨reply, hreply⟩ | hsame
  · have hmoves := moves_respond env s r
    obtain ⟨next, hnext⟩ : ∃ next, (env.respond s r).2 = next := ⟨_, rfl⟩
    rw [hnext] at hmoves
    cases hmoves with
    | stays | looks | logsOut =>
      rw [hnext] at h
      exact .kept h rfl rfl rfl
    | registers asked read done =>
      obtain ⟨rfl, hnew⟩ := Tables.of_register done
      rw [hnext] at h
      rcases List.mem_append.mp h with h | h
      · exact .kept h rfl rfl rfl
      · cases List.mem_singleton.mp h
        exact .registered asked read (respond_of_register asked read done).1 hnew.id hnew.email hnew.role
    | logsIn asked read done =>
      obtain ⟨user, sessions, huser, -, -, rfl⟩ := State.login_eq_ok_iff.mp done
      rw [hnext] at h
      rcases Tables.of_mem_replaceUser h with rfl | h
      · exact .kept (Tables.mem_of_userByCredentials huser) rfl rfl rfl
      · exact .kept h rfl rfl rfl
    | creates asked =>
      obtain ⟨form, user, session, hform, hadd, hstatus, -⟩ := addUser_of_reply asked hreply
      obtain ⟨htables, hnew⟩ := Tables.of_addUser hadd
      rw [htables] at h
      rcases List.mem_append.mp h with h | h
      · exact .kept h rfl rfl rfl
      · cases List.mem_singleton.mp h
        exact .created asked hform hstatus hnew.id hnew.email hnew.role
    | updates asked =>
      obtain ⟨n, form, user, changed, session, hn, hform, huser, hchanged, htables, hstatus, -⟩ :=
        updateUser_of_reply asked hreply
      rw [htables] at h
      rcases Tables.of_mem_replaceUser h with rfl | h
      · obtain ⟨hmem, hid, -⟩ := Tables.mem_of_userById huser
        obtain ⟨hsame, -, -, hrole⟩ := UserEditForm.of_applyTo hchanged
        rw [← hid, ← hsame] at hn
        exact .changed asked hn hform hstatus hmem hsame (UserEditForm.address_of_applyTo hchanged).1 hrole
      · exact .kept h rfl rfl rfl
    | deletes asked found permitted known =>
      rw [hnext] at h
      rcases Tables.of_mem_replaceUser h with rfl | h
      · exact .kept (Tables.mem_of_userById known).1 rfl rfl rfl
      · exact .kept h rfl rfl rfl
  · rw [hsame] at h
    exact .kept h rfl rfl rfl

/-- A login leaves all numbers and addresses. -/
theorem Opens.exists_old {p : Principal} (h : env.Opens s r p)
    (hrow : row ∈ (env.respond s r).2.tables.users) :
    ∃ old ∈ s.tables.users, row.id = old.id ∧ row.email = old.email := by
  cases origin_of_mem hrow with
  | kept mem id email => exact ⟨_, mem, id, email⟩
  | registered asked | created asked | changed asked => cases asked.symm.trans h.1

/-- One of the requests of the run from the state is of the kind. -/
def Sometime (kind : Service → State → Request → Prop) (s : State) (steps : List (Service × Request)) :
    Prop :=
  ∃ before env r after, steps = before ++ (env, r) :: after ∧ kind env (run s before) r

/-- What has happened in a run has happened in every longer one. -/
theorem Sometime.append {kind : Service → State → Request → Prop} (h : Sometime kind s steps)
    (more : List (Service × Request)) : Sometime kind s (steps ++ more) := by
  obtain ⟨before, env, r, after, rfl, hkind⟩ := h
  exact ⟨before, env, r, after ++ more, by simp, hkind⟩

/-- The last request of a run is one of its requests. -/
theorem sometime_of_last {kind : Service → State → Request → Prop} (h : kind env (run s steps) r) :
    Sometime kind s (steps ++ [(env, r)]) :=
  ⟨steps, env, r, [], rfl, h⟩

/-! ### Blank addresses -/

/-- The request is a registration with a blank address, and is answered as carried out; it adds the user of
the number. -/
def RegistersBlank (env : Service) (s : State) (r : Request) (n : ℤ) : Prop :=
  r.action? = some .register ∧
    (∃ form, readBody RegisterForm.read r = .ok form ∧ Text.strip form.email = "") ∧
    (env.respond s r).1.status = 201 ∧ s.tables.nextUserId = n

/-- A user without an address has registered so: no other form takes a blank address. -/
theorem sometime_registersBlank (hempty : start.tables.users = []) (hu : u ∈ (run start steps).tables.users)
    (hblank : u.email = "") : Sometime (fun env s r => env.RegistersBlank s r u.id) start steps := by
  induction steps using List.reverseRecOn generalizing u with
  | nil =>
    change u ∈ start.tables.users at hu
    rw [hempty] at hu
    cases hu
  | append_singleton steps step ih =>
    obtain ⟨env, r⟩ := step
    rw [run_append_singleton] at hu
    -- a row that was there before had no address either, so that the registration came before
    cases origin_of_mem hu with
    | kept mem id email =>
      rw [id]
      exact (ih mem (email.symm.trans hblank)).append _
    | @registered form asked read done id email =>
      refine sometime_of_last ⟨asked, ⟨form, read, ?_⟩, done, id.symm⟩
      by_contra hne
      exact normalizeEmail_ne_empty hne (email.symm.trans hblank)
    | created asked read done id email =>
      obtain ⟨fields, -, hfields⟩ := exists_fields_of_readBody read
      exact absurd (email.symm.trans hblank) (normalizeEmail_ne_empty (NewUserForm.not_blank_of_read hfields))
    | @changed id form old asked number read done mem same email =>
      cases hgiven : form.email with
      | none =>
        rw [hgiven] at email
        rw [same]
        exact (ih mem (email.symm.trans hblank)).append _
      | some given =>
        rw [hgiven] at email
        obtain ⟨fields, -, hfields⟩ := exists_fields_of_readBody read
        have hne := UserEditForm.not_blank_of_read hfields hgiven
        exact absurd (email.symm.trans hblank) (normalizeEmail_ne_empty hne)

/-- After every run from an empty table of users, a live user whose address is not blank is found by it.  At
most one user has a blank address, and is not found by it; it was added by a registration with a blank
address, which was answered as carried out. -/
theorem ownAddress_of_run (hempty : start.tables.users = []) (steps : List (Service × Request))
    (hu : u ∈ (run start steps).tables.users) :
    let tables := (run start steps).tables
    (Text.strip u.email ≠ "" → u.isLive = true → tables.userByEmail? (some u.email) = some u) ∧
      (Text.strip u.email = "" → tables.userByEmail? (some u.email) = none ∧
        (∀ v ∈ tables.users, Text.strip v.email = "" → v = u) ∧
        Sometime (fun env s r => env.RegistersBlank s r u.id) start steps) := by
  intro tables
  have hk : tables.Keyed := keyed_run (Tables.keyed_of_empty hempty) steps
  have hblank : ∀ v ∈ tables.users, Text.strip v.email = "" → v.email = "" := by
    intro v hv hstrip
    exact (hk.normal v hv).symm.trans (normalizeEmail_of_blank hstrip)
  constructor
  · intro hne hlive
    exact hk.userByEmail?_eq_some_iff.mpr ⟨normalizeEmail_ne_empty hne, hu, hlive, (hk.normal u hu).symm⟩
  · intro hstrip
    refine ⟨Tables.userByEmail?_of_blank hstrip tables, fun v hv hstrip' => ?_,
      sometime_registersBlank hempty hu (hblank u hu hstrip)⟩
    by_contra hne
    exact (hk.differ hv hu hne).2 ((hblank v hv hstrip').trans (hblank u hu hstrip).symm)

/-- Two users who have registered, the second of them with a blank for an address. -/
def registeredBlank : List (Service × Request) :=
  [(atClock noon, registration "a@b.c"), (atClock noon, registration " ")]

/-- Both are live, and the second has no address. -/
theorem exists_users_registeredBlank :
    (∃ u ∈ (run untouched registeredBlank).tables.users, u.email = "a@b.c" ∧ u.isLive = true) ∧
      ∃ v ∈ (run untouched registeredBlank).tables.users, v.email = "" ∧ v.isLive = true := by
  have hcolumns : (run untouched registeredBlank).tables.users.map (fun u => (u.email, u.isLive)) =
      [("a@b.c", true), ("", true)] := by
    decide +kernel
  have hmem : ∀ email, (email, true) ∈ [("a@b.c", true), ("", true)] →
      ∃ u ∈ (run untouched registeredBlank).tables.users, u.email = email ∧ u.isLive = true := by
    intro email h
    rw [← hcolumns] at h
    obtain ⟨u, hu, heq⟩ := List.mem_map.mp h
    exact ⟨u, hu, Prod.mk.inj heq⟩
  exact ⟨hmem "a@b.c" (by decide), hmem "" (by decide)⟩

/-- A user who has registered with a blank address is live and has a blank address, by which the user is not
found. -/
theorem unreachable_registeredBlank : ∃ u ∈ (run untouched registeredBlank).tables.users,
    u.isLive = true ∧ Text.strip u.email = "" ∧
      (run untouched registeredBlank).tables.userByEmail? (some u.email) ≠ some u := by
  obtain ⟨-, u, hu, hemail, hlive⟩ := exists_users_registeredBlank
  have hblank : Text.strip u.email = "" := by
    rw [hemail]
    rfl
  refine ⟨u, hu, hlive, hblank, ?_⟩
  rw [Tables.userByEmail?_of_blank hblank]
  exact (Option.some_ne_none u).symm

/-- The first of the two is found, and for the second there was a registration with a blank address. -/
theorem ownAddress_of_run_registeredBlank :
    (∃ u, (run untouched registeredBlank).tables.userByEmail? (some "a@b.c") = some u) ∧
      ∃ v ∈ (run untouched registeredBlank).tables.users,
        Sometime (fun env s r => env.RegistersBlank s r v.id) untouched registeredBlank := by
  have hempty : untouched.tables.users = [] := rfl
  obtain ⟨⟨u, hu, hemail, hlive⟩, v, hv, hemail', -⟩ := exists_users_registeredBlank
  have hne : Text.strip u.email ≠ "" := by
    rw [hemail]
    decide
  have hblank : Text.strip v.email = "" := by
    rw [hemail']
    rfl
  have hfound := (ownAddress_of_run hempty registeredBlank hu).1 hne hlive
  rw [hemail] at hfound
  exact ⟨⟨u, hfound⟩, v, hv, ((ownAddress_of_run hempty registeredBlank hv).2 hblank).2.2⟩

end Backoffice.Web.Service
