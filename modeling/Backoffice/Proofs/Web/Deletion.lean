import Mathlib
import Backoffice.Proofs.Directory.DeletedRows
import Backoffice.Proofs.Web.Answers
import Backoffice.Proofs.Web.SessionRuns
import Backoffice.Proofs.Web.Writes

/-!
# Deleted users over runs of the service

A user that was deleted stays deleted.  Its row is there for good and never changes again, nobody finds,
changes or deletes the user, nobody logs in as the user, and no list tells the table from one without the
row, unless a picker asks for the number (`Service.deleted_of_run`).
-/

namespace Backoffice

/-- The state without the users of a number. -/
def State.withoutUser (s : State) (n : ℤ) : State :=
  { s with tables := s.tables.withoutUser n }

namespace Web.Service

variable {env : Service} {s s' next : State} {r : Request} {u : User} {n : ℤ}

/-! ### Requests that were carried out -/

/-- A refusal is no good answer. -/
theorem le_status_refusal (refusal : Refusal) : 400 ≤ refusal.status := by
  cases refusal <;> simp [Refusal.status]

/-- A stop is not answered as if the request was carried out. -/
theorem le_status_of_answer? {id : String} {stop : Stop} {status : Nat} {body : Json}
    (h : answer? id (.error stop) = some (status, body)) : 400 ≤ status := by
  cases stop with
  | notFound | methodNotAllowed suggested | unprocessable errors =>
    cases h
    decide
  | failed f =>
    cases f with
    | refused refusal =>
      cases h
      exact le_status_refusal refusal
    | uncompilable e =>
      cases h
      decide
    | _ => cases h

/-- A request that was answered as carried out was carried out. -/
theorem exists_reply_of_status (h : (env.respond s r).1.status < 300) :
    ∃ reply, (env.carryOut s r).1 = .ok reply := by
  cases hresult : (env.carryOut s r).1 with
  | ok reply => exact ⟨reply, rfl⟩
  | error stop =>
    exfalso
    unfold respond at h
    simp only [hresult] at h
    split at h
    · rename_i status body hanswer
      have hle := le_status_of_answer? hanswer
      dsimp only at h
      omega
    · change 500 < 300 at h
      omega

/-- A request for a session that was carried out has found the session and left the state that its action
came to. -/
theorem exists_session_of_reply {act : SessionFields → State → Outcome} {reply : Reply}
    (hperform : env.carryOut s r = env.withSession s r act) (hreply : (env.carryOut s r).1 = .ok reply) :
    ∃ session sessions next,
      authenticate env.settings env.now r.bearer s.sessions = (.ok session, sessions) ∧
        act session { s with sessions } = .ok (reply, next) ∧ (env.respond s r).2 = next := by
  rw [hperform] at hreply
  rw [respond_state, hperform]
  exact withSession_of_ok hreply

/-- A deletion that was carried out was asked for in a session, and has marked the row of a user in its
name. -/
theorem softDeleteUser_of_reply {id : String} {reply : Reply} (hasked : r.action? = some (.deleteUser id))
    (hreply : (env.carryOut s r).1 = .ok reply) : ∃ n user session, readUserId id = .ok n ∧
      s.tables.userById n = .ok user ∧
      (env.respond s r).2.tables = (s.tables.softDeleteUser env.now session.actorLabel user).2 ∧
      (env.respond s r).1.status = 200 ∧
      (authenticate env.settings env.now r.bearer s.sessions).1 = .ok session := by
  have hperform : env.carryOut s r = env.withSession s r fun session s => env.deleteUser session id s :=
    carryOut_of_action hasked
  obtain ⟨session, sessions, next, hfound, hact, hnext⟩ := exists_session_of_reply hperform hreply
  rw [status_of_ok hreply, hnext]
  obtain ⟨n, user, -, hn, huser, rfl, rfl⟩ := deleteUser_eq_ok_iff.mp hact
  exact ⟨n, user, session, hn, huser, rfl, rfl, congrArg Prod.fst hfound⟩

/-- An administrator who asks for the deletion of a user marks the row of the user. -/
theorem carryOut_deleteUser {id : String} {session : SessionFields} {sessions : Session.Store}
    (hasked : r.action? = some (.deleteUser id))
    (hfound : authenticate env.settings env.now r.bearer s.sessions = (.ok session, sessions))
    (hpermitted : session.requireRole adminRoles = .ok ()) (hnumber : readUserId id = .ok n)
    (huser : s.tables.userById n = .ok u) :
    env.carryOut s r = (.ok (.ok (.obj [("status", .str "deleted"), ("id", .int n)])),
      ⟨(s.tables.softDeleteUser env.now session.actorLabel u).2, sessions⟩) := by
  rw [carryOut_of_action hasked]
  change env.withSession s r (fun session s => env.deleteUser session id s) = _
  exact withSession_of_done hfound
    (deleteUser_eq_ok_iff.mpr ⟨n, u, hpermitted, hnumber, huser, rfl, rfl⟩)

/-! ### The row of a deleted user -/

/-- Every move leaves the row of a deleted user as it is. -/
theorem mem_of_moves (hk : s.tables.Keyed) (hu : u ∈ s.tables.users) (hdeleted : u.deleted = some true)
    (h : Moves env s r next) : u ∈ next.tables.users := by
  -- rows are written only for live users, and a live user has another number
  have hkept : ∀ user ∈ s.tables.users, user.isLive = true → ∀ changed : User,
      u ∈ (s.tables.replaceUser user.id changed).users := by
    intro user huser hlive changed
    exact Tables.mem_replaceUser_of_ne hu (hk.id_ne_of_deleted hu hdeleted huser hlive) changed
  cases h with
  | stays => exact hu
  | looks => exact hu
  | logsOut asked found => exact hu
  | registers asked read done =>
    obtain ⟨actor, draft, hcreate⟩ := Tables.createUser_of_register done
    obtain ⟨rfl, -, -⟩ := Tables.of_createUser hcreate
    exact List.mem_append_left _ hu
  | creates asked found permitted done =>
    obtain ⟨draft, hcreate⟩ := Tables.createUser_of_addUser done
    obtain ⟨rfl, -, -⟩ := Tables.of_createUser hcreate
    exact List.mem_append_left _ hu
  | logsIn asked read done =>
    obtain ⟨user, sessions, huser, -, -, rfl⟩ := State.login_eq_ok_iff.mp done
    obtain ⟨-, hmem, hlive, -⟩ :=
      hk.userByEmail?_eq_some_iff.mp (Tables.userByEmail?_of_userByCredentials huser)
    exact hkept user hmem hlive _
  | updates asked found permitted known done =>
    obtain ⟨hmem, -, hlive⟩ := Tables.mem_of_userById known
    obtain ⟨rfl, -, -⟩ := Tables.of_updateUser done
    exact hkept _ hmem hlive _
  | deletes asked found permitted known =>
    obtain ⟨hmem, -, hlive⟩ := Tables.mem_of_userById known
    exact hkept _ hmem hlive _

/-- Every run keeps the users apart. -/
theorem keyed_run (hk : s.tables.Keyed) (steps : List (Service × Request)) :
    (run s steps).tables.Keyed :=
  run_induction steps hk fun _ _ _ _ hk hmove => keyed_of_moves hk hmove

/-- Every run leaves the row of a deleted user as it is, and the users apart. -/
theorem mem_run (hk : s.tables.Keyed) (hu : u ∈ s.tables.users) (hdeleted : u.deleted = some true)
    (steps : List (Service × Request)) :
    (run s steps).tables.Keyed ∧ u ∈ (run s steps).tables.users :=
  run_induction (P := fun s => s.tables.Keyed ∧ u ∈ s.tables.users) steps ⟨hk, hu⟩
    fun _ _ _ _ hkept hmove => ⟨keyed_of_moves hkept.1 hmove, mem_of_moves hkept.1 hkept.2 hdeleted hmove⟩

/-! ### Requests for a single user -/

/-- The live user of an address, who has to exist. -/
def findUser (s : State) (id : String) : Except Stop User := do
  let n ← orReject (readUserId id)
  orFail (s.tables.userById n)

/-- The request shows, changes or deletes the user of an address, and is stopped by nothing before the user
is looked for: its session is found and has the role that it takes, and its body is read. -/
inductive AsksFor (env : Service) (s : State) (r : Request) (id : String) : Prop
  | shows {session : SessionFields} {sessions : Session.Store} (asked : r.action? = some (.getUser id))
      (found : authenticate env.settings env.now r.bearer s.sessions = (.ok session, sessions))
  | changes {session : SessionFields} {sessions : Session.Store} {form : UserEditForm}
      (asked : r.action? = some (.updateUser id))
      (found : authenticate env.settings env.now r.bearer s.sessions = (.ok session, sessions))
      (permitted : session.requireRole adminRoles = .ok ()) (read : readBody UserEditForm.read r = .ok form)
  | deletes {session : SessionFields} {sessions : Session.Store} (asked : r.action? = some (.deleteUser id))
      (found : authenticate env.settings env.now r.bearer s.sessions = (.ok session, sessions))
      (permitted : session.requireRole adminRoles = .ok ())

/-- A form beside one that has no errors has the errors that it has by itself. -/
theorem orReject_pair {α β : Type} (x : Form.Checked α) (b : β) :
    orReject (Prod.mk <$> x <*> .ok b) = orReject x >>= fun a => .ok (a, b) := by
  cases x <;> rfl

/-- A request for a user is stopped by what stops the search for the user. -/
theorem carryOut_of_asksFor {id : String} {stop : Stop} (h : AsksFor env s r id)
    (hstop : findUser s id = .error stop) : ∃ sessions,
      env.carryOut s r = (.error stop, { s with sessions }) := by
  -- whatever is done with the number and the user comes after the search
  have hnext : ∀ f : ℤ → User → Outcome,
      (orReject (readUserId id) >>= fun n => orFail (s.tables.userById n) >>= f n) = .error stop := by
    intro f
    unfold findUser at hstop
    rcases bind_eq_error_iff.mp hstop with hunread | ⟨n, hn, hunknown⟩
    · exact bind_eq_error_iff.mpr (.inl hunread)
    · exact bind_eq_error_iff.mpr (.inr ⟨n, hn, bind_eq_error_iff.mpr (.inl hunknown)⟩)
  cases h with
  | @shows session sessions asked found =>
    refine ⟨sessions, ?_⟩
    rw [carryOut_of_action asked]
    change env.withSession s r (fun _ s => Service.getUser id s) = _
    exact withSession_of_error found (hnext fun n user => _)
  | @changes session sessions form asked found permitted read =>
    refine ⟨sessions, ?_⟩
    rw [carryOut_of_action asked]
    change env.withSession s r (fun session s => env.updateUser session id s r) = _
    refine withSession_of_error found ?_
    unfold Service.updateUser
    rw [permitted, read, orReject_pair, bind_assoc]
    exact hnext fun n user => _
  | @deletes session sessions asked found permitted =>
    refine ⟨sessions, ?_⟩
    rw [carryOut_of_action asked]
    change env.withSession s r (fun session s => env.deleteUser session id s) = _
    refine withSession_of_error found ?_
    unfold Service.deleteUser
    rw [permitted]
    exact hnext fun n user => _

/-! ### Requests for a deleted user -/

/-- The request asks for the user of a number: its address is read as the number, and nothing else stops it
before the user is looked for. -/
def AimsAt (env : Service) (s : State) (r : Request) (n : ℤ) : Prop :=
  ∃ id, AsksFor env s r id ∧ readUserId id = .ok n

/-- A request for a user that is not found is refused. -/
theorem carryOut_of_aimsAt (h : AimsAt env s r n)
    (hnobody : s.tables.userById n = .error (.refused .userNotFound)) : ∃ sessions,
      env.carryOut s r = (.error (.failed (.refused .userNotFound)), { s with sessions }) := by
  obtain ⟨id, hasks, hnumber⟩ := h
  refine carryOut_of_asksFor hasks ?_
  unfold findUser
  rw [hnumber]
  simp only [orReject, ok_bind, hnobody]
  rfl

/-- A login with credentials that nobody has is refused. -/
theorem carryOut_of_login {form : LoginForm} (hasked : r.action? = some .login)
    (hread : readBody LoginForm.read r = .ok form)
    (hnobody : s.tables.userByCredentials form.email form.password = .error (.refused .invalidCredentials)) :
    env.carryOut s r = (.error (.failed (.refused .invalidCredentials)), s) := by
  have hstate : s.login env.settings env.now form = .error (.refused .invalidCredentials) := by
    unfold State.login
    rw [hnobody]
    rfl
  rw [carryOut_of_action hasked]
  change settle s (env.login s r) = _
  rw [login_of_error hread hstate]
  rfl

/-! ### Lists -/

/-- A list of users is answered as if there was no user of the number, if the user is deleted. -/
theorem respond_listUsers_withoutUser (hasked : r.action? = some .listUsers)
    (hnumbers : s.tables.HasDistinctNumbers)
    (hdeleted : ∀ u ∈ s.tables.users, u.id = n → u.deleted = some true) :
    (env.respond s r).1 = (env.respond (s.withoutUser n) r).1 := by
  refine respond_listUsers_congr hasked rfl fun p d hd => ?_
  unfold State.withoutUser
  rw [Tables.listUsers_withoutUser hnumbers hdeleted hd]
  rfl

/-- A picker is answered as if there was no user of the number, if the user is deleted and the picker does
not ask for the number. -/
theorem respond_listLookup_withoutUser {source : String} (hasked : r.action? = some (.listLookup source))
    (hnumbers : s.tables.HasDistinctNumbers)
    (hdeleted : ∀ u ∈ s.tables.users, u.id = n → u.deleted = some true)
    (hids : ∀ ids, decodeSelectedIds r.listQuery.selectedIds = .ok ids → n ∉ ids) :
    (env.respond s r).1 = (env.respond (s.withoutUser n) r).1 := by
  refine respond_listLookup_congr hasked rfl fun p hp kind d hd => ?_
  refine (Tables.lookup_withoutUser hnumbers hdeleted hd ?_).symm
  rw [ListParams.selectedIds_of_lookupParams hp]
  exact hids

/-! ### Runs after a deletion -/

/-- The user is out of reach in the state: its row is the only one of its number, who asks for the user
finds nobody and who logs in with its address is nobody, and the lists are those without the row. -/
structure IsOutOfReach (s : State) (u : User) : Prop where
  row : s.tables.users.filter (·.id = u.id) = [u]
  refused : ∀ (env : Service) (r : Request), AimsAt env s r u.id → (env.respond s r).1.status = 404
  unknown : ∀ (env : Service) (r : Request) (form : LoginForm), r.action? = some .login →
    readBody LoginForm.read r = .ok form → normalizeEmail (some form.email) = u.email →
    (env.respond s r).1.status = 401
  unlisted : ∀ (env : Service) (r : Request), r.action? = some .listUsers →
    (env.respond s r).1 = (env.respond (s.withoutUser u.id) r).1
  unpicked : ∀ (env : Service) (r : Request) (source : String), r.action? = some (.listLookup source) →
    (∀ ids, decodeSelectedIds r.listQuery.selectedIds = .ok ids → u.id ∉ ids) →
    (env.respond s r).1 = (env.respond (s.withoutUser u.id) r).1

/-- A user that is marked as deleted is out of reach. -/
theorem isOutOfReach_of_deleted (hk : s.tables.Keyed) (hstorable : fitsWord u.id = true)
    (hu : u ∈ s.tables.users) (hdeleted : u.deleted = some true) : IsOutOfReach s u := by
  have hnumbers := hk.hasDistinctNumbers
  have hrow : s.tables.users.filter (·.id = u.id) = [u] := Tables.filter_number_eq hnumbers hu
  -- what is refused or left out by number is this one row, so it is marked as deleted
  have hmarked : ∀ v ∈ s.tables.users, v.id = u.id → v.deleted = some true := by
    intro v hv hid
    have hmem : v ∈ s.tables.users.filter (·.id = u.id) :=
      List.mem_filter.mpr ⟨hv, decide_eq_true hid⟩
    rw [hrow, List.mem_singleton] at hmem
    rw [hmem, hdeleted]
  refine ⟨hrow, ?_, ?_, ?_, ?_⟩
  · intro env r haims
    obtain ⟨sessions, hrefused⟩ :=
      carryOut_of_aimsAt haims (Tables.userById_of_deleted hstorable hmarked)
    exact (respond_of_refused hrefused).1
  · intro env r form hasked hread hemail
    have hnobody := hk.userByCredentials_of_deleted hu hdeleted hemail form.password
    exact (respond_of_refused (carryOut_of_login hasked hread hnobody)).1
  · intro env r hasked
    exact respond_listUsers_withoutUser hasked hnumbers hmarked
  · intro env r source hasked hids
    exact respond_listLookup_withoutUser hasked hnumbers hmarked hids

/-- After every run from an empty table of users and a deletion that is answered as carried out, the row
of the number is marked as deleted, and after every further run the user is out of reach with the same
row. -/
theorem deleted_of_run {start : State} (hempty : start.tables.users = [])
    (before : List (Service × Request)) {id : String} (hasked : r.action? = some (.deleteUser id))
    (hdone : (env.respond (run start before) r).1.status = 200) :
    ∃ u : User, readUserId id = .ok u.id ∧ u.deleted = some true ∧
      ∀ after, IsOutOfReach (run (env.respond (run start before) r).2 after) u := by
  obtain ⟨reply, hreply⟩ := exists_reply_of_status (lt_of_eq_of_lt hdone (by decide))
  obtain ⟨n, user, session, hn, huser, htables, -⟩ := softDeleteUser_of_reply hasked hreply
  obtain ⟨hmem, hid, -⟩ := Tables.mem_of_userById huser
  let gone : User :=
    { user with deleted := some true, deletedBy := session.actorLabel, deletedAt := some env.now }
  have hgone : gone ∈ (env.respond (run start before) r).2.tables.users := by
    rw [htables]
    exact List.mem_map.mpr ⟨user, hmem, if_pos rfl⟩
  have hkeyed : (env.respond (run start before) r).2.tables.Keyed :=
    keyed_of_moves (keyed_run (Tables.keyed_of_empty hempty) before) (moves_respond env _ r)
  refine ⟨gone, hid ▸ hn, rfl, fun after => ?_⟩
  obtain ⟨hkept, hrow⟩ := mem_run hkeyed hgone rfl after
  exact isOutOfReach_of_deleted hkept (hid ▸ Tables.fitsWord_of_userById huser) hrow rfl

/-! ### A deletion -/

/-- The state with no users and the session of an administrator under a token. -/
def administered (token : String) : State :=
  ⟨⟨[], [], [], []⟩, .memory ⟨[(token, ⟨.obj [("role", .str "ADMIN")], ⟨63900003600000000, by decide⟩⟩)]⟩⟩

/-- The deletion of the first user, with a token. -/
def removal (token : String) : Request :=
  ⟨"DELETE", "/api/users/1", "", [("Authorization", "Bearer " ++ token)], none⟩

/-- The deletion is asked for as one. -/
theorem action_removal (token : String) : (removal token).action? = some (.deleteUser "1") := by
  have hsame : (removal token).action? = (removal "").action? := rfl
  rw [hsame]
  decide

/-- A registration does not depend on the sessions. -/
theorem respond_of_registration (hasked : r.action? = some .register) (tables : Tables)
    (sessions other : Session.Store) :
    (env.respond ⟨tables, sessions⟩ r).2 = ⟨(env.respond ⟨tables, other⟩ r).2.tables, sessions⟩ := by
  have hperform : ∀ s, env.carryOut s r = settle s (env.register s r) := by
    intro s
    rw [carryOut_of_action hasked]
    rfl
  rw [respond_state, respond_state, hperform, hperform]
  unfold Service.register
  cases readBody RegisterForm.read r with
  | failed errors => rfl
  | ok form =>
    simp only [orReject, ok_bind]
    cases tables.register env.now env.salts form with
    | error f => rfl
    | ok done => rfl

/-- The user has a token at noon that is over an hour later. -/
theorem exists_token_member : ∃ (token : String) (expires : WallTime),
    userToken hourly noon expires member = .ok token ∧ noon.unixSeconds ≤ expires.unixTimestamp := by
  obtain ⟨token, htoken⟩ := Token.exists_userToken isPlainSecret_hourly noon
    ⟨63900003600000000, by decide⟩ member
  exact ⟨token, _, htoken, by decide +kernel⟩

/-- The token of a user leads to the session of the administrator. -/
theorem authenticate_administered {token : String} {expires : WallTime}
    (htoken : userToken hourly noon expires member = .ok token)
    (hvalid : noon.unixSeconds ≤ expires.unixTimestamp) :
    authenticate hourly noon (removal token).bearer (administered token).sessions =
      (.ok [("role", .str "ADMIN")], (administered token).sessions) := by
  have hstrip := Token.strip_userToken htoken
  have hne : token ≠ "" := by
    rintro rfl
    cases Token.point_mem_userToken htoken
  have hbearer : (removal token).bearer = some token := bearer_signOut hstrip hne
  obtain ⟨claims, haccept⟩ :=
    (Token.exists_accept_userToken_iff isPlainSecret_hourly htoken noon).mpr hvalid
  have hlookup : (administered token).sessions.get noon token =
      (some (.obj [("role", .str "ADMIN")]), (administered token).sessions) := by
    unfold administered Session.Store.get Session.Memory.get
    simp [noon]
  unfold authenticate requireToken
  simp only [hbearer, haccept]
  unfold Session.Store.principal
  simp only [hstrip, if_neg hne, hlookup]

/-- The deletion is answered as carried out and leaves the sessions as they are, if the first user is
found. -/
theorem respond_removal {token : String} {expires : WallTime} {tables : Tables} {user : User}
    (htoken : userToken hourly noon expires member = .ok token)
    (hvalid : noon.unixSeconds ≤ expires.unixTimestamp) (huser : tables.userById 1 = .ok user) :
    ((atClock noon).respond ⟨tables, (administered token).sessions⟩ (removal token)).1.status = 200 ∧
      ((atClock noon).respond ⟨tables, (administered token).sessions⟩ (removal token)).2.sessions =
        (administered token).sessions := by
  have hauth : authenticate (atClock noon).settings (atClock noon).now (removal token).bearer
      (administered token).sessions = _ := authenticate_administered htoken hvalid
  have hcarried := carryOut_deleteUser (s := ⟨tables, (administered token).sessions⟩) (action_removal token)
    hauth (by decide) rfl huser
  rw [respond_state, hcarried]
  exact ⟨status_of_ok (congrArg Prod.fst hcarried), rfl⟩

/-- The state after somebody has registered. -/
def registered (token : String) : State :=
  run (administered token) [(atClock noon, registration "a@b.c")]

/-- The registration leaves the session of the administrator as it is, and adds the same user whatever
the token is. -/
theorem registered_eq (token : String) :
    registered token = ⟨(registered "").tables, (administered token).sessions⟩ :=
  respond_of_registration (by decide) _ _ _

/-- Who has registered is the first user. -/
theorem exists_userById_registered : ∃ user, (registered "").tables.userById 1 = .ok user := by
  have hsome : ((registered "").tables.userById 1).toOption.isSome = true := by
    decide +kernel
  cases hfound : (registered "").tables.userById 1 with
  | ok user => exact ⟨user, rfl⟩
  | error f =>
    rw [hfound] at hsome
    cases hsome

/-- A registered user is deleted once: a second deletion finds nobody. -/
theorem deleted_of_run_removal : ∃ token,
    let s := run (administered token) [(atClock noon, registration "a@b.c")]
    ((atClock noon).respond s (removal token)).1.status = 200 ∧
      ((atClock noon).respond ((atClock noon).respond s (removal token)).2
        (removal token)).1.status = 404 := by
  obtain ⟨token, expires, htoken, hvalid⟩ := exists_token_member
  obtain ⟨user, huser⟩ := exists_userById_registered
  obtain ⟨hdone, hsessions⟩ := respond_removal htoken hvalid huser
  rw [← registered_eq] at hdone hsessions
  obtain ⟨u, hid, -, hgone⟩ := deleted_of_run rfl [(atClock noon, registration "a@b.c")]
    (action_removal token) hdone
  have hfound := authenticate_administered htoken hvalid
  rw [← hsessions] at hfound
  refine ⟨token, hdone, (hgone []).refused (atClock noon) (removal token) ⟨"1", ?_, hid⟩⟩
  exact .deletes (action_removal token) hfound (by decide +kernel)

end Web.Service

end Backoffice
