import Mathlib
import Backoffice.Proofs.Directory.Accounts
import Backoffice.Proofs.Session.Calls
import Backoffice.Proofs.Web.Snapshots

/-!
# Accounts over runs of the service

An account stays until an administrator changes or deletes its user, `Service.hasAccount_run`.  Its owner can
log in, if nothing in the settings stands in the way (`Service.CanOpen`), and the token of the login is
accepted: `Service.CanOpen.exists_opens` and `Service.authenticate_of_opens`.
-/

namespace Backoffice

namespace Session.Store

variable {store : Store} {now : WallTime}

/-- What is kept for some seconds from now on is over before the calendar ends, in a store that has to know
the time of its end. -/
def CanKeep (store : Store) (now : WallTime) (ttl : ℤ) : Prop :=
  match store with
  | .memory _ => expiry now ttl < calendarMicros
  | .shared _ => True

/-- What is over before the calendar ends can be kept in either store. -/
theorem canKeep_of_expiry_lt {ttl : ℤ} (h : expiry now ttl < calendarMicros) (store : Store) :
    store.CanKeep now ttl := by
  cases store with
  | memory m => exact h
  | shared s => trivial

/-- A store that can keep what it is given takes every login. -/
theorem CanKeep.exists_login {ttl : ℤ} (h : store.CanKeep now ttl) (p : Principal) :
    ∃ sessions, store.login now p ttl = .ok sessions := by
  cases store with
  | memory m =>
    obtain ⟨first, hfirst⟩ := exists_set_of_expiry_lt h (.memory m) p.token (.obj p.fields)
    exact Store.exists_login hfirst
  | shared s =>
    have hset : (shared s).set now p.token (.obj p.fields) ttl =
        .ok (.shared (s.set now p.token (.obj p.fields) ttl)) := rfl
    exact Store.exists_login hset

/-- A store in memory takes no login whose session would not be over before the calendar ends. -/
theorem login_memory_eq_error {m : Memory} {ttl : ℤ} {o : Overflow}
    (h : now.after (secondsSpan (keptSeconds ttl)) = .error o) (p : Principal) :
    (memory m).login now p ttl = .error o := by
  have hset : m.set now p.token (.obj p.fields) ttl = .error o := by
    unfold Memory.set
    rw [h]
    rfl
  refine bind_eq_error_iff.mpr (.inl ?_)
  change (m.set now p.token (.obj p.fields) ttl).map memory = .error o
  rw [hset]
  rfl

end Session.Store

namespace Web.Service

variable {env : Service} {s : State} {r : Request} {u : User} {p : Principal}
  {steps : List (Service × Request)}

/-! ### Accounts that stay -/

/-- The request changes or deletes a user, and the rows of the number are not what they were. -/
def Rewrites (env : Service) (s : State) (r : Request) (n : ℤ) : Prop :=
  (∃ id, r.action? = some (.updateUser id) ∨ r.action? = some (.deleteUser id)) ∧
    (env.respond s r).2.tables.users.filter (·.id = n) ≠ s.tables.users.filter (·.id = n)

/-- A request that does not rewrite the row of a user leaves the account. -/
theorem hasAccount_respond (hk : s.tables.Keyed) (h : s.tables.HasAccount u)
    (hkept : ¬ env.Rewrites s r u.id) : (env.respond s r).2.tables.HasAccount u := by
  have hwritten : (∃ id, r.action? = some (.updateUser id) ∨ r.action? = some (.deleteUser id)) →
      (env.respond s r).2.tables.HasAccount u := by
    intro hasked
    refine h.of_filter_eq ?_
    by_contra hrows
    exact hkept ⟨hasked, hrows⟩
  have hmoves := moves_respond env s r
  generalize (env.respond s r).2 = next at hmoves hwritten
  cases hmoves with
  | stays | looks | logsOut => exact h
  | registers asked read done =>
    obtain ⟨actor, draft, hcreate⟩ := Tables.createUser_of_register done
    obtain ⟨rfl, -, -⟩ := Tables.of_createUser hcreate
    exact h.append _
  | creates asked found permitted done =>
    obtain ⟨draft, hcreate⟩ := Tables.createUser_of_addUser done
    obtain ⟨rfl, -, -⟩ := Tables.of_createUser hcreate
    exact h.append _
  | logsIn asked read done =>
    obtain ⟨user, sessions, huser, -, -, rfl⟩ := State.login_eq_ok_iff.mp done
    exact h.recordLogin hk (Tables.mem_of_userByCredentials huser) _ _ _
  | updates asked => exact hwritten ⟨_, .inl asked⟩
  | deletes asked => exact hwritten ⟨_, .inr asked⟩

/-- An account stays over a run in which nobody rewrites the row of the user. -/
theorem hasAccount_run (hk : s.tables.Keyed) (h : s.tables.HasAccount u)
    (hkept : Never (fun env s r => env.Rewrites s r u.id) s steps) :
    (run s steps).tables.HasAccount u := by
  induction steps generalizing s with
  | nil => exact h
  | cons step steps ih =>
    have hk' := keyed_of_moves hk (moves_respond step.1 s step.2)
    exact ih hk' (hasAccount_respond hk h hkept.1) hkept.2

/-! ### Logins that succeed -/

/-- An hour is longer than a second. -/
theorem secondMicros_le_hoursSpan {hours : ℤ} (h : 0 < hours) : (secondMicros : ℤ) ≤ hoursSpan hours := by
  unfold hoursSpan secondsSpan secondMicros
  omega

/-- Nothing in the settings keeps the service from opening sessions in the store: the secret signs, tokens
live for an hour at least, and tokens and sessions are over before the calendar ends. -/
structure CanOpen (env : Service) (store : Session.Store) : Prop where
  signs : Token.isPlainKey env.settings.tokenSecret = true
  lasting : 0 < env.settings.tokenTtlHours
  tokenEnds : env.now.micros + hoursSpan env.settings.tokenTtlHours < calendarMicros
  sessionEnds : store.CanKeep env.now env.settings.sessionTtlSeconds

/-- The login brings the credentials that it says. -/
theorem exists_form_of_signIn {tables : Tables} {v : User}
    (h : tables.userByCredentials "a@b.c" "secret" = .ok v) : ∃ form,
      readBody LoginForm.read signIn = .ok form ∧
        tables.userByCredentials form.email form.password = .ok v :=
  ⟨⟨"a@b.c", "secret"⟩, rfl, h⟩

/-- A service whose tokens live for an hour, and sessions for a day, can open sessions until the day before
the calendar ends. -/
theorem canOpen_atClock {opened : WallTime} (h : opened.micros + dayMicros < calendarMicros)
    (store : Session.Store) : (atClock opened).CanOpen store where
  signs := isPlainSecret_hourly.signs
  lasting := by
    change 0 < hourly.tokenTtlHours
    decide
  tokenEnds := by
    have hspan : hoursSpan hourly.tokenTtlHours ≤ dayMicros := by decide
    change (opened.micros : ℤ) + hoursSpan hourly.tokenTtlHours < calendarMicros
    omega
  sessionEnds := by
    have hspan : max hourly.sessionTtlSeconds 1 * secondMicros = dayMicros := by decide
    refine Session.Store.canKeep_of_expiry_lt ?_ store
    change (opened.micros : ℤ) + max hourly.sessionTtlSeconds 1 * secondMicros < calendarMicros
    rw [hspan]
    omega

/-- Whoever has the credentials of a user can log in, and the principal is the user. -/
theorem CanOpen.exists_opens {form : LoginForm} (h : env.CanOpen s.sessions)
    (hasked : r.action? = some .login) (hread : readBody LoginForm.read r = .ok form)
    (huser : s.tables.userByCredentials form.email form.password = .ok u) :
    ∃ p, env.Opens s r p ∧ p.userId = u.id ∧ p.email = u.email ∧ p.role = u.role := by
  have hforward : 0 ≤ hoursSpan env.settings.tokenTtlHours :=
    le_trans (Int.natCast_nonneg secondMicros) (secondMicros_le_hoursSpan h.lasting)
  obtain ⟨expires, hexpires⟩ := WallTime.exists_after hforward h.tokenEnds
  obtain ⟨token, htoken⟩ := Token.exists_userToken_of_signs h.signs env.now expires u
  obtain ⟨sessions, hsessions⟩ := h.sessionEnds.exists_login
    ⟨u.id, u.email, u.displayName, u.name, u.role, token, expires⟩
  exact ⟨_, ⟨hasked, form, _, hread, State.login_eq_ok_iff.mpr ⟨u, sessions, huser,
    principalOf_eq_ok_iff.mpr ⟨expires, token, hexpires, htoken, rfl⟩, hsessions, rfl⟩⟩, rfl, rfl, rfl⟩

/-- A token that lives for an hour at least does not expire before the second of the login is over. -/
theorem Opens.unixSeconds_le (h : env.Opens s r p) (hlasting : 0 < env.settings.tokenTtlHours) :
    env.now.unixSeconds ≤ p.expires.unixTimestamp := by
  have hspan := secondMicros_le_hoursSpan hlasting
  obtain ⟨user, -, -, hexpires, -⟩ := h.exists_user
  obtain ⟨-, -, hmicros⟩ := WallTime.after_eq_ok_iff.mp hexpires
  exact WallTime.unixSeconds_le_unixTimestamp (by omega)

/-- The token of a login is accepted at the time of the login, if it lives for an hour at least. -/
theorem authenticate_of_opens (h : env.Opens s r p) (hplain : Token.IsPlainSecret env.settings.tokenSecret)
    (hnumber : fitsWord p.userId = true) (hlasting : 0 < env.settings.tokenTtlHours) :
    (authenticate env.settings env.now (some p.token) (env.respond s r).2.sessions).1 = .ok p.fields := by
  obtain ⟨hpoint, hstrip, hne⟩ := h.token_form
  obtain ⟨user, -, -, -, htoken⟩ := h.exists_user
  have hpeek := peek_of_opens_of_fitsWord h hnumber hpoint env.now
  have hlasts : (env.now.micros : ℤ) < env.now.micros + secondsSpan env.settings.sessionTtlSeconds := by
    unfold secondsSpan secondMicros Settings.sessionTtlSeconds
    omega
  rw [if_pos rfl, if_pos hlasts] at hpeek
  refine authenticate_eq_ok_iff.mpr ⟨p.token, rfl,
    (Token.exists_accept_userToken_iff hplain htoken env.now).mpr (h.unixSeconds_le hlasting),
    Session.Store.principal_eq_ok_iff.mpr ⟨?_, ?_⟩⟩
  · rwa [hstrip]
  · rwa [hstrip]

end Web.Service

end Backoffice
