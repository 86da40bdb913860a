import Mathlib
import Backoffice.Proofs.Account.Access
import Backoffice.Proofs.Directory.Rows
import Backoffice.Proofs.Session.Entries
import Backoffice.Proofs.Web.Addresses

/-!
# Who changes what

A request that is not carried out changes nothing, and of all tables only the users ever change: by a
registration, by a login, or by an administrator, and one row at a time (`Service.writes_of_run`).
-/

namespace Backoffice.Web

/-! ### Addresses and methods -/

/-- The parts of the path of an address. -/
def Route.segments : Route → List String
  | landing => ["", ""]
  | health => ["", "health"]
  | healthStatus => ["", "api", "health", "status"]
  | register => ["", "api", "auth", "register"]
  | login => ["", "api", "auth", "login"]
  | logout => ["", "api", "auth", "logout"]
  | refreshUser => ["", "api", "auth", "refresh-user"]
  | users => ["", "api", "users"]
  | user id => ["", "api", "users", id]
  | lookup source => ["", "api", "lookups", source]
  | menu => ["", "api", "menu"]

/-- The address has no parameter. -/
def Route.IsFixed : Route → Prop
  | user _ | lookup _ => False
  | _ => True

/-- A path of these parts leads to the address: they are its parts, and a line feed may stand behind them if
none of them is a parameter. -/
def Route.IsAt (route : Route) (parts : List String) : Prop :=
  parts = route.segments ∨ (route.IsFixed ∧ withoutLineFeed parts = route.segments)

/-- The request has this method and asks for this address. -/
def Request.Asks (r : Request) (method : String) (route : Route) : Prop :=
  r.method = method ∧ route.IsAt r.segments

/-- The method and the address by which an action is asked for. -/
def Action.place : Action → String × Route
  | landing => ("GET", .landing)
  | health => ("GET", .health)
  | healthStatus => ("GET", .healthStatus)
  | register => ("POST", .register)
  | login => ("POST", .login)
  | logout => ("POST", .logout)
  | refreshUser => ("GET", .refreshUser)
  | listUsers => ("GET", .users)
  | createUser => ("POST", .users)
  | getUser id => ("GET", .user id)
  | updateUser id => ("PUT", .user id)
  | deleteUser id => ("DELETE", .user id)
  | listLookup source => ("GET", .lookup source)
  | showMenu => ("GET", .menu)

/-- An address without a parameter is the one that has the parts. -/
theorem Route.fixed?_eq_some_iff {parts : List String} {route : Route} :
    fixed? parts = some route ↔ route.IsFixed ∧ parts = route.segments := by
  constructor
  · intro h
    unfold fixed? at h
    split at h <;> cases h <;> exact ⟨trivial, rfl⟩
  · rintro ⟨hfixed, rfl⟩
    cases route with
    | user | lookup => cases hfixed
    | _ => rfl

/-- A path leads only to an address that it is at. -/
theorem Route.isAt_of_ofSegments {parts : List String} {route : Route}
    (h : ofSegments parts = some route) : route.IsAt parts := by
  unfold ofSegments at h
  split at h
  · split at h <;> cases h
    exact .inl rfl
  · split at h <;> cases h
    exact .inl rfl
  · exact .inr (fixed?_eq_some_iff.mp h)

/-- An address takes a method only for the action that belongs to both. -/
theorem Route.place_of_action? {route : Route} {method : String} {a : Action}
    (h : route.action? method = some a) : a.place = (method, route) := by
  unfold action? at h
  split at h <;> cases h <;> rfl

/-- Every action is asked for by its method and its address. -/
theorem Request.asks_of_action? {r : Request} {a : Action} (h : r.action? = some a) :
    r.Asks a.place.1 a.place.2 := by
  obtain ⟨route, hroute, haction⟩ := Option.bind_eq_some_iff.mp h
  have hplace := Route.place_of_action? haction
  rw [hplace]
  exact ⟨rfl, Route.isAt_of_ofSegments hroute⟩

namespace Service

variable {env : Service} {s next : State} {r : Request}

/-! ### Requests that are not carried out -/

/-- Whatever is replied says that the request was carried out. -/
def RepliesWell (o : Outcome) : Prop :=
  ∀ reply next, o = .ok (reply, next) → reply.status = 200 ∨ reply.status = 201

/-- A result and the state after it: either the request was carried out and the reply says so, or there
is a reason to stop, and the session was looked for at most. -/
def Settled (env : Service) (s : State) (r : Request) (x : Except Stop Reply × State) : Prop :=
  (∃ reply, x.1 = .ok reply ∧ (reply.status = 200 ∨ reply.status = 201)) ∨
    ∃ stop, x.1 = .error stop ∧ (x.2 = s ∨
      x.2 = { s with sessions := (authenticate env.settings env.now r.bearer s.sessions).2 })

/-- A stop leaves the state as it was. -/
theorem settle_of_repliesWell {o : Outcome} (h : RepliesWell o) :
    (∃ reply, (settle s o).1 = .ok reply ∧ (reply.status = 200 ∨ reply.status = 201)) ∨
      ∃ stop, settle s o = (.error stop, s) := by
  cases o with
  | error stop => exact Or.inr ⟨stop, rfl⟩
  | ok done => exact Or.inl ⟨done.1, rfl, h done.1 done.2 rfl⟩

/-- What is done without a session is settled. -/
theorem settled_settle {o : Outcome} (h : RepliesWell o) : Settled env s r (settle s o) := by
  rcases settle_of_repliesWell (s := s) h with hreply | ⟨stop, hstop⟩
  · exact Or.inl hreply
  · rw [hstop]
    exact Or.inr ⟨stop, rfl, Or.inl rfl⟩

/-- What is done for a session is settled. -/
theorem settled_withSession {act : SessionFields → State → Outcome}
    (h : ∀ session s, RepliesWell (act session s)) : Settled env s r (env.withSession s r act) := by
  rcases hauth : authenticate env.settings env.now r.bearer s.sessions with ⟨refusal | session, sessions⟩
  · rw [withSession_of_stranger hauth]
    refine Or.inr ⟨_, rfl, Or.inr ?_⟩
    rw [hauth]
  · rw [withSession_of_found hauth]
    rcases settle_of_repliesWell (s := { s with sessions }) (h session { s with sessions }) with
      hreply | ⟨stop, hstop⟩
    · exact Or.inl hreply
    · rw [hstop]
      refine Or.inr ⟨stop, rfl, Or.inr ?_⟩
      rw [hauth]

/-- A list request is settled. -/
theorem settled_withList {params : Except Refusal ListParams} {act : ListParams → State → Outcome}
    (h : ∀ p s, RepliesWell (act p s)) : Settled env s r (env.withList s r params act) := by
  unfold withList
  cases params with
  | error refusal => exact Or.inr ⟨_, rfl, Or.inl rfl⟩
  | ok p => exact settled_withSession fun _ s => h p s

/-- Every action is settled. -/
theorem settled_perform (a : Action) : Settled env s r (env.perform s r a) := by
  unfold perform
  cases a with
  | landing | health | healthStatus => exact Or.inl ⟨_, rfl, Or.inl rfl⟩
  | register =>
    refine settled_settle fun reply next h => ?_
    obtain ⟨_, _, _, -, -, rfl, -⟩ := register_eq_ok_iff.mp h
    exact Or.inr rfl
  | login =>
    refine settled_settle fun reply next h => ?_
    obtain ⟨_, _, -, -, rfl⟩ := login_eq_ok_iff.mp h
    exact Or.inl rfl
  | logout | refreshUser =>
    refine settled_withSession fun session s reply next h => ?_
    cases h
    exact Or.inl rfl
  | listUsers =>
    refine settled_withList fun p s reply next h => ?_
    obtain ⟨_, _, -, -, rfl, -⟩ := listUsers_eq_ok_iff.mp h
    exact Or.inl rfl
  | createUser =>
    refine settled_withSession fun session s reply next h => ?_
    obtain ⟨_, _, _, -, -, -, rfl, -⟩ := createUser_eq_ok_iff.mp h
    exact Or.inr rfl
  | getUser id =>
    refine settled_withSession fun session s reply next h => ?_
    obtain ⟨_, _, -, -, rfl, -⟩ := getUser_eq_ok_iff.mp h
    exact Or.inl rfl
  | updateUser id =>
    refine settled_withSession fun session s reply next h => ?_
    obtain ⟨_, _, _, _, _, -, -, -, -, -, rfl, -⟩ := updateUser_eq_ok_iff.mp h
    exact Or.inl rfl
  | deleteUser id =>
    refine settled_withSession fun session s reply next h => ?_
    obtain ⟨_, _, -, -, -, rfl, -⟩ := deleteUser_eq_ok_iff.mp h
    exact Or.inl rfl
  | listLookup source =>
    refine settled_withList fun p s reply next h => ?_
    obtain ⟨_, _, _, -, -, -, rfl, -⟩ := listLookup_eq_ok_iff.mp h
    exact Or.inl rfl
  | showMenu =>
    refine settled_withSession fun session s reply next h => ?_
    obtain ⟨_, -, rfl, -⟩ := showMenu_eq_ok_iff.mp h
    exact Or.inl rfl

/-- Every request is settled. -/
theorem settled_carryOut (env : Service) (s : State) (r : Request) :
    Settled env s r (env.carryOut s r) := by
  unfold carryOut
  split
  · exact Or.inr ⟨_, rfl, Or.inl rfl⟩
  · split
    · exact Or.inr ⟨_, rfl, Or.inl rfl⟩
    · exact settled_perform _

/-- A request was carried out, or it has left the tables as they were. -/
theorem exists_reply_or_tables_eq (env : Service) (s : State) (r : Request) :
    (∃ reply, (env.carryOut s r).1 = .ok reply) ∨ (env.respond s r).2.tables = s.tables := by
  rw [respond_state]
  rcases settled_carryOut env s r with ⟨reply, hreply, -⟩ | ⟨stop, -, hstay | hlooks⟩
  · exact Or.inl ⟨reply, hreply⟩
  · rw [hstay]
    exact Or.inr rfl
  · rw [hlooks]
    exact Or.inr rfl

/-- A reply gives its status to the answer. -/
theorem status_of_ok {reply : Reply} (h : (env.carryOut s r).1 = .ok reply) :
    (env.respond s r).1.status = reply.status := by
  unfold respond
  simp only [h, answer?]

/-- A reply gives its body to the answer. -/
theorem body_of_ok {reply : Reply} (h : (env.carryOut s r).1 = .ok reply) :
    (env.respond s r).1.body = .json reply.body := by
  unfold respond
  simp only [h, answer?]

/-- A request whose answer does not say that it was carried out leaves the tables as they are, and of the
sessions what is not over. -/
theorem unchanged_of_status
    (h : ¬ (200 ≤ (env.respond s r).1.status ∧ (env.respond s r).1.status < 300)) :
    (env.respond s r).2.tables = s.tables ∧
      ∀ key, (env.respond s r).2.sessions.kept? env.now key = s.sessions.kept? env.now key := by
  rcases settled_carryOut env s r with ⟨reply, hreply, hstatus⟩ | ⟨stop, -, hstay | hlooks⟩
  · rw [status_of_ok hreply] at h
    omega
  · rw [respond_state, hstay]
    exact ⟨rfl, fun _ => rfl⟩
  · rw [respond_state, hlooks]
    exact ⟨rfl, kept?_authenticate env.settings env.now r.bearer s.sessions⟩

/-! ### Writes to the table of users -/

/-- The request brings a token that leads to a stored session with the role of an administrator. -/
def IsByAdministrator (env : Service) (s : State) (r : Request) : Prop :=
  ∃ token session, r.bearer = some token ∧
    (∃ claims, Token.accept env.settings.tokenSecret token env.now = .ok claims) ∧
    s.sessions.peek env.now (Text.strip token) = some (.obj session) ∧
    session.lookup "role" = some (.str "ADMIN")

/-- A session with the role of an administrator has exactly this role. -/
theorem role_of_requireRole {session : SessionFields} (h : session.requireRole adminRoles = .ok ()) :
    session.lookup "role" = some (.str "ADMIN") := by
  unfold SessionFields.requireRole at h
  split at h
  · rename_i hrole
    unfold SessionFields.hasRole adminRoles SessionFields.field at hrole
    rw [List.any_cons, List.any_nil, Bool.or_false] at hrole
    cases hlookup : session.lookup "role" with
    | none =>
      rw [hlookup] at hrole
      cases hrole
    | some v =>
      rw [hlookup] at hrole
      cases v with
      | str text =>
        rw [Option.getD_some, Json.same, beq_iff_eq] at hrole
        rw [hrole]
      | _ => cases hrole
  · cases h

/-- Who is let in with the role of an administrator brings the token of an administrator's session. -/
theorem isByAdministrator_of_found {session : SessionFields} {sessions : Session.Store}
    (hfound : authenticate env.settings env.now r.bearer s.sessions = (.ok session, sessions))
    (hpermitted : session.requireRole adminRoles = .ok ()) : env.IsByAdministrator s r := by
  obtain ⟨token, hbearer, haccept, hprincipal⟩ := authenticate_eq_ok_iff.mp (congrArg Prod.fst hfound)
  have hpeek := (Session.Store.principal_eq_ok_iff.mp hprincipal).2
  exact ⟨token, session, hbearer, haccept, hpeek, role_of_requireRole hpermitted⟩

/-- What a request that changes the users does: the rows after it. -/
inductive WritesUsers (env : Service) (s : State) (r : Request) : List User → Prop
  /-- A registration adds a row. -/
  | registers {user : User} (asked : r.Asks "POST" .register) :
      WritesUsers env s r (s.tables.users ++ [user])
  /-- A login notes the token and the time in the row of the user who logs in. -/
  | logsIn {form : LoginForm} {user : User} {authToken updatedBy : Option String}
      {tokenExpiresAt loginDate : Option WallTime} {rows : List User}
      (asked : r.Asks "POST" .login)
      (read : readBody LoginForm.read r = .ok form)
      (known : s.tables.userByCredentials form.email form.password = .ok user)
      (changes : Tables.Changes user { user with authToken, tokenExpiresAt, loginDate, updatedBy }
        s.tables.users rows) : WritesUsers env s r rows
  /-- An administrator adds a row. -/
  | creates {user : User} (asked : r.Asks "POST" .users)
      (admin : env.IsByAdministrator s r) : WritesUsers env s r (s.tables.users ++ [user])
  /-- An administrator changes a row. -/
  | updates {id : String} {user changed : User} {rows : List User}
      (asked : r.Asks "PUT" (.user id)) (admin : env.IsByAdministrator s r)
      (changes : Tables.Changes user changed s.tables.users rows) : WritesUsers env s r rows
  /-- An administrator marks a row as deleted. -/
  | deletes {id : String} {user : User} {deletedBy : Option String} {deletedAt : Option WallTime}
      {rows : List User} (asked : r.Asks "DELETE" (.user id))
      (admin : env.IsByAdministrator s r)
      (changes : Tables.Changes user { user with deleted := some true, deletedBy, deletedAt }
        s.tables.users rows) : WritesUsers env s r rows

/-- The tables other than that of the users are the same. -/
def SameOthers (t t' : Tables) : Prop :=
  t'.statuses = t.statuses ∧ t'.modules = t.modules ∧ t'.items = t.items

/-- Every move keeps the numbers of the users different, keeps the other tables, and if it changes the
users then as one of the writes. -/
theorem writes_of_moves (hnumbers : s.tables.HasDistinctNumbers) (h : Moves env s r next) :
    next.tables.HasDistinctNumbers ∧ SameOthers s.tables next.tables ∧
      (next.tables.users ≠ s.tables.users → WritesUsers env s r next.tables.users) := by
  have hsame : SameOthers s.tables s.tables := ⟨rfl, rfl, rfl⟩
  cases h with
  | stays => exact ⟨hnumbers, hsame, fun hne => absurd rfl hne⟩
  | looks => exact ⟨hnumbers, hsame, fun hne => absurd rfl hne⟩
  | logsOut asked found => exact ⟨hnumbers, hsame, fun hne => absurd rfl hne⟩
  | registers asked read done =>
    obtain ⟨actor, draft, hcreate⟩ := Tables.createUser_of_register done
    have hkept := hnumbers.createUser hcreate
    obtain ⟨rfl, -, -⟩ := Tables.of_createUser hcreate
    exact ⟨hkept, hsame, fun _ => .registers (Request.asks_of_action? asked)⟩
  | logsIn asked read done =>
    obtain ⟨user, sessions, huser, -, -, rfl⟩ := State.login_eq_ok_iff.mp done
    have hmem := Tables.mem_of_userByCredentials huser
    exact ⟨hnumbers.replaceUser_same hmem rfl, hsame, fun _ =>
      .logsIn (Request.asks_of_action? asked) read huser (Tables.changes_replaceUser hnumbers hmem _)⟩
  | creates asked found permitted done =>
    obtain ⟨draft, hcreate⟩ := Tables.createUser_of_addUser done
    have hkept := hnumbers.createUser hcreate
    have hadmin := isByAdministrator_of_found found permitted
    obtain ⟨rfl, -, -⟩ := Tables.of_createUser hcreate
    exact ⟨hkept, hsame, fun _ => .creates (Request.asks_of_action? asked) hadmin⟩
  | updates asked found permitted known done =>
    obtain ⟨hmem, -, -⟩ := Tables.mem_of_userById known
    have hkept := hnumbers.updateUser hmem done
    have hadmin := isByAdministrator_of_found found permitted
    obtain ⟨rfl, -, -⟩ := Tables.of_updateUser done
    exact ⟨hkept, hsame, fun _ => .updates (Request.asks_of_action? asked) hadmin
      (Tables.changes_replaceUser hnumbers hmem _)⟩
  | deletes asked found permitted known =>
    obtain ⟨hmem, -, -⟩ := Tables.mem_of_userById known
    have hadmin := isByAdministrator_of_found found permitted
    exact ⟨hnumbers.replaceUser_same hmem rfl, hsame, fun _ =>
      .deletes (Request.asks_of_action? asked) hadmin (Tables.changes_replaceUser hnumbers hmem _)⟩

/-- Over every run the numbers of the users stay different. -/
theorem hasDistinctNumbers_run (hstart : s.tables.HasDistinctNumbers)
    (steps : List (Service × Request)) : (run s steps).tables.HasDistinctNumbers :=
  run_induction steps hstart fun _ _ _ _ hnumbers hmove => (writes_of_moves hnumbers hmove).1

/-- After every run on users with different numbers, whatever is requested: if the answer does not say that
the request was carried out, then no table has changed, and nothing in the store of sessions whose time is
not up.  If the users have changed, then by a registration, by a login, or by an administrator, and in one
row.  The other tables never change.  And a login does not stop half way: once its first entry is stored,
the others are, too. -/
theorem writes_of_run {start : State} (hstart : start.tables.HasDistinctNumbers)
    (steps : List (Service × Request)) (env : Service) (r : Request) :
    let s := run start steps
    let status := (env.respond s r).1.status
    let next := (env.respond s r).2
    (¬ (200 ≤ status ∧ status < 300) → next.tables = s.tables ∧
      ∀ key, next.sessions.kept? env.now key = s.sessions.kept? env.now key) ∧
    (next.tables.users ≠ s.tables.users → WritesUsers env s r next.tables.users) ∧
    SameOthers s.tables next.tables ∧
    ∀ (p : Principal) (first : Session.Store), s.sessions.set env.now p.token (.obj p.fields)
        env.settings.sessionTtlSeconds = .ok first →
      ∃ sessions, s.sessions.login env.now p env.settings.sessionTtlSeconds = .ok sessions := by
  intro s status next
  have hnumbers : s.tables.HasDistinctNumbers := hasDistinctNumbers_run hstart steps
  obtain ⟨-, hothers, hwrites⟩ := writes_of_moves hnumbers (moves_respond env s r)
  exact ⟨unchanged_of_status, hwrites, hothers, fun p first hfirst => Session.Store.exists_login hfirst⟩

/-- After a registration another one adds a row, and one with the same address changes no table. -/
theorem writes_of_run_registration :
    let s := run ⟨⟨[], [], [], []⟩, .start false⟩ [(atNewYear, registration "a@b.c")]
    WritesUsers atNewYear s (registration "b@b.c")
        (atNewYear.respond s (registration "b@b.c")).2.tables.users ∧
      (atNewYear.respond s (registration "a@b.c")).1.status = 400 ∧
      (atNewYear.respond s (registration "a@b.c")).2.tables = s.tables := by
  intro s
  have hstart : (⟨⟨[], [], [], []⟩, .start false⟩ : State).tables.HasDistinctNumbers := List.nodup_nil
  have hadded : (atNewYear.respond s (registration "b@b.c")).2.tables.users ≠ s.tables.users := by
    intro heq
    have hlength := congrArg List.length heq
    revert hlength
    decide +kernel
  have hstatus : (atNewYear.respond s (registration "a@b.c")).1.status = 400 := by
    decide +kernel
  have hwrites := writes_of_run hstart [(atNewYear, registration "a@b.c")] atNewYear
  refine ⟨(hwrites (registration "b@b.c")).2.1 hadded, hstatus,
    ((hwrites (registration "a@b.c")).1 ?_).1⟩
  change ¬ (200 ≤ (atNewYear.respond s (registration "a@b.c")).1.status ∧
    (atNewYear.respond s (registration "a@b.c")).1.status < 300)
  rw [hstatus]
  decide

end Service

end Backoffice.Web
