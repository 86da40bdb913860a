import Mathlib
import Backoffice.Proofs.Account.Access
import Backoffice.Proofs.Web.Moves

/-!
# What a request does to the sessions

A login opens a session, a logout ends one, and no other request changes what the store answers: one
lemma for each of the three, `peek_of_opens`, `peek_of_closes` and `peek_of_others`.
-/

namespace Backoffice

/-- The numbers of the users fit the column of a database, which has 64 bits. -/
def Tables.IsNumbered (t : Tables) : Prop :=
  ∀ u ∈ t.users, fitsWord u.id = true

namespace Web.Service

variable {env : Service} {s : State} {r : Request} {p q : Principal} {token key : String}
  {later : WallTime}

/-! ### Logins and logouts -/

/-- The request is a login that succeeds and opens the session of the principal. -/
def Opens (env : Service) (s : State) (r : Request) (p : Principal) : Prop :=
  r.action? = some .login ∧ ∃ form next, readBody LoginForm.read r = .ok form ∧
    s.login env.settings env.now form = .ok (p, next)

/-- The request is a logout that succeeds and ends the session of the token. -/
def Closes (env : Service) (s : State) (r : Request) (token : String) : Prop :=
  r.action? = some .logout ∧ r.bearer = some token ∧
    ∃ session, (authenticate env.settings env.now r.bearer s.sessions).1 = .ok session

/-- A login opens one session. -/
theorem Opens.unique (hp : env.Opens s r p) (hq : env.Opens s r q) : p = q := by
  obtain ⟨-, form, next, hread, hlogin⟩ := hp
  obtain ⟨-, form', next', hread', hlogin'⟩ := hq
  rw [hread] at hread'
  cases hread'
  rw [hlogin] at hlogin'
  cases hlogin'
  rfl

/-- A login is no logout. -/
theorem Opens.not_closes (hp : env.Opens s r p) : ¬ env.Closes s r token := by
  intro hclose
  have hasked := hp.1.symm.trans hclose.1
  cases hasked

/-- A login that succeeds is answered with the principal, opens its session in the store, and notes in
the row of the user that the user has logged in. -/
theorem carryOut_of_opens (h : env.Opens s r p) : ∃ user sessions,
    env.carryOut s r = (.ok (.ok p.view),
      ⟨(s.tables.recordLogin env.now user p.token p.expires p.username).2, sessions⟩) ∧
    s.sessions.login env.now p env.settings.sessionTtlSeconds = .ok sessions := by
  obtain ⟨hasked, form, next, hread, hlogin⟩ := h
  obtain ⟨user, sessions, -, -, hsessions, hnext⟩ := State.login_eq_ok_iff.mp hlogin
  refine ⟨user, sessions, ?_, hsessions⟩
  rw [carryOut_of_action hasked, ← hnext]
  change settle s (env.login s r) = _
  rw [login_eq_ok_iff.mpr ⟨form, p, hread, hlogin, rfl⟩]
  rfl

/-- A login that succeeds is answered with the principal. -/
theorem respond_of_opens (h : env.Opens s r p) :
    (env.respond s r).1.status = 200 ∧ (env.respond s r).1.body = .json p.view := by
  obtain ⟨user, sessions, hdone, -⟩ := carryOut_of_opens h
  unfold respond
  rw [hdone]
  exact ⟨rfl, rfl⟩

/-- A logout that succeeds ends the session in the store, after it was looked for there. -/
theorem carryOut_of_closes (h : env.Closes s r token) :
    (env.carryOut s r).2 = { s with sessions :=
      (authenticate env.settings env.now r.bearer s.sessions).2.logout env.now token } := by
  obtain ⟨hasked, hbearer, session, hfound⟩ := h
  rw [carryOut_of_action hasked]
  change (env.withSession s r fun _ s => env.logout s r).2 = _
  rcases hauth : authenticate env.settings env.now r.bearer s.sessions with ⟨result, sessions⟩
  rw [hauth] at hfound
  cases hfound
  rw [withSession_of_done hauth rfl, hbearer]
  rfl

/-- A login changes the number of nobody. -/
theorem isNumbered_of_opens (h : env.Opens s r p) (hnumbered : s.tables.IsNumbered) :
    (env.respond s r).2.tables.IsNumbered := by
  obtain ⟨user, sessions, hdone, -⟩ := carryOut_of_opens h
  rw [respond_state, hdone]
  intro u hu
  obtain ⟨v, hv, rfl⟩ := List.mem_map.mp hu
  split_ifs with hid
  · have hkept := hnumbered v hv
    rwa [hid] at hkept
  · exact hnumbered v hv

/-- A logout leaves the tables as they are. -/
theorem tables_of_closes (h : env.Closes s r token) : (env.respond s r).2.tables = s.tables := by
  rw [respond_state, carryOut_of_closes h]

/-- The principal of a login is made from a user. -/
theorem Opens.exists_user (h : env.Opens s r p) :
    ∃ user ∈ s.tables.users, p.userId = user.id ∧
      env.now.after (hoursSpan env.settings.tokenTtlHours) = .ok p.expires ∧
      userToken env.settings env.now p.expires user = .ok p.token := by
  obtain ⟨-, form, next, -, hlogin⟩ := h
  obtain ⟨user, sessions, huser, hp, -, -⟩ := State.login_eq_ok_iff.mp hlogin
  obtain ⟨expires, token, hexpires, htoken, rfl⟩ := principalOf_eq_ok_iff.mp hp
  exact ⟨user, Tables.mem_of_userByCredentials huser, rfl, hexpires, htoken⟩

/-- The principal of a login says what the row of the user says. -/
theorem Opens.exists_row (h : env.Opens s r p) :
    ∃ user ∈ s.tables.users, p.userId = user.id ∧ p.email = user.email ∧
      p.username = user.displayName ∧ p.role = user.role := by
  obtain ⟨-, form, next, -, hlogin⟩ := h
  obtain ⟨user, sessions, huser, hp, -, -⟩ := State.login_eq_ok_iff.mp hlogin
  obtain ⟨expires, token, -, -, rfl⟩ := principalOf_eq_ok_iff.mp hp
  exact ⟨user, Tables.mem_of_userByCredentials huser, rfl, rfl, rfl, rfl⟩

/-- The number of the principal of a login is the one of a user. -/
theorem Opens.fitsWord_userId (h : env.Opens s r p) (hnumbered : s.tables.IsNumbered) :
    fitsWord p.userId = true := by
  obtain ⟨user, huser, hid, -⟩ := h.exists_user
  rw [hid]
  exact hnumbered user huser

/-- The token of a login has a point, has no blanks at its ends, and is not empty. -/
theorem Opens.token_form (h : env.Opens s r p) :
    '.' ∈ p.token.toList ∧ Text.strip p.token = p.token ∧ p.token ≠ "" := by
  obtain ⟨user, -, -, -, htoken⟩ := h.exists_user
  have hpoint := Token.point_mem_userToken htoken
  refine ⟨hpoint, Token.strip_userToken htoken, fun hempty => ?_⟩
  rw [hempty] at hpoint
  cases hpoint

/-! ### What a request does to the answers of the store -/

/-- A login gives its token a session, for the life time of sessions, if the number of the user fits the
database. -/
theorem peek_of_opens_of_fitsWord (h : env.Opens s r p) (hnumber : fitsWord p.userId = true)
    (hpoint : '.' ∈ key.toList) (later : WallTime) :
    (env.respond s r).2.sessions.peek later key =
      if key = p.token then
        if (later.micros : ℤ) < env.now.micros + secondsSpan env.settings.sessionTtlSeconds then
          some (.obj p.fields)
        else none
      else s.sessions.peek later key := by
  obtain ⟨_, sessions, hdone, hlogin⟩ := carryOut_of_opens h
  obtain ⟨hexact, hint⟩ := p.isExact_of_fitsWord hnumber
  have hkept : Session.keptSeconds env.settings.sessionTtlSeconds = env.settings.sessionTtlSeconds := by
    unfold Session.keptSeconds Settings.sessionTtlSeconds
    omega
  rw [respond_state, hdone]
  change sessions.peek later key = _
  rw [Session.Store.peek_login hlogin hexact hint hpoint, hkept]

/-- A login gives its token a session, for the life time of sessions. -/
theorem peek_of_opens (h : env.Opens s r p) (hnumbered : s.tables.IsNumbered)
    (hpoint : '.' ∈ key.toList) (later : WallTime) :
    (env.respond s r).2.sessions.peek later key =
      if key = p.token then
        if (later.micros : ℤ) < env.now.micros + secondsSpan env.settings.sessionTtlSeconds then
          some (.obj p.fields)
        else none
      else s.sessions.peek later key :=
  peek_of_opens_of_fitsWord h (h.fitsWord_userId hnumbered) hpoint later

/-- A logout takes the session from its token. -/
theorem peek_of_closes (h : env.Closes s r token) (hlater : env.now.micros ≤ later.micros)
    (hpoint : '.' ∈ key.toList) :
    (env.respond s r).2.sessions.peek later key =
      if key = token then none else s.sessions.peek later key := by
  rw [respond_state, carryOut_of_closes h]
  change (Session.Store.logout _ env.now token).peek later key = _
  rw [Session.Store.peek_logout _ hlater token hpoint, peek_authenticate _ hlater]

/-- Any other request leaves the sessions alone. -/
theorem peek_of_others (hopens : ∀ p, ¬ env.Opens s r p) (hcloses : ∀ token, ¬ env.Closes s r token)
    (hlater : env.now.micros ≤ later.micros) :
    (env.respond s r).2.sessions.peek later key = s.sessions.peek later key := by
  have hauth : (authenticate env.settings env.now r.bearer s.sessions).2.peek later key =
      s.sessions.peek later key := peek_authenticate _ hlater _ _
  have hmoves := moves_respond env s r
  generalize (env.respond s r).2 = next at hmoves
  cases hmoves with
  | stays => rfl
  | looks => exact hauth
  | registers => rfl
  | logsIn asked read done => exact absurd ⟨asked, _, _, read, done⟩ (hopens _)
  | logsOut asked found =>
    obtain ⟨t, ht, -, -⟩ := authenticate_eq_ok_iff.mp (congrArg Prod.fst found)
    exact absurd ⟨asked, ht, _, congrArg Prod.fst found⟩ (hcloses t)
  | creates asked found permitted done =>
    rw [found] at hauth
    exact hauth
  | updates asked found permitted known done =>
    rw [found] at hauth
    exact hauth
  | deletes asked found permitted known =>
    rw [found] at hauth
    exact hauth

end Web.Service

end Backoffice
