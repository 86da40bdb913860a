import Mathlib
import Backoffice.Proofs.Account.Tokens
import Backoffice.Proofs.Directory.Keys
import Backoffice.Proofs.Session.Reads

/-!
# Who gets in

What a login needs and what it leaves behind, `State.login_eq_ok_iff`, and when the token of a request
leads to a session, `authenticate_eq_ok_iff`.
-/

namespace Backoffice

variable {settings : Settings} {now later : WallTime}

/-! ### Logging in -/

/-- A result that is no overflow. -/
theorem orOverflow_eq_ok_iff {α : Type} {x : Except Overflow α} {a : α} : orOverflow x = .ok a ↔ x = .ok a := by
  cases x <;> simp [orOverflow]

/-- The principal of a user is made from the user and a new token that lives as long as tokens do. -/
theorem principalOf_eq_ok_iff {user : User} {p : Principal} :
    principalOf settings now user = .ok p ↔ ∃ expires token,
      now.after (hoursSpan settings.tokenTtlHours) = .ok expires ∧
        userToken settings now expires user = .ok token ∧
        p = ⟨user.id, user.email, user.displayName, user.name, user.role, token, expires⟩ := by
  unfold principalOf
  simp only [bind_eq_ok_iff, pure_eq_ok_iff, orOverflow_eq_ok_iff]
  constructor
  · rintro ⟨expires, hexpires, token, htoken, hp⟩
    exact ⟨expires, token, hexpires, htoken, hp.symm⟩
  · rintro ⟨expires, token, hexpires, htoken, hp⟩
    exact ⟨expires, hexpires, token, htoken, hp.symm⟩

/-- An overflow is the failure that it is. -/
theorem orOverflow_eq_error_iff {α : Type} {x : Except Overflow α} {f : Failure} :
    orOverflow x = .error f ↔ ∃ o, x = .error o ∧ f = .overflow o := by
  cases x with
  | error o => simp [orOverflow, eq_comm]
  | ok a => simp [orOverflow]

/-- A user gets no principal if a token would live beyond the calendar, or cannot be signed. -/
theorem principalOf_eq_error_iff {user : User} {f : Failure} :
    principalOf settings now user = .error f ↔
      (∃ o, now.after (hoursSpan settings.tokenTtlHours) = .error o ∧ f = .overflow o) ∨
        ∃ expires, now.after (hoursSpan settings.tokenTtlHours) = .ok expires ∧
          userToken settings now expires user = .error f := by
  unfold principalOf
  simp only [bind_eq_error_iff, orOverflow_eq_error_iff, orOverflow_eq_ok_iff]
  refine or_congr_right (exists_congr fun expires => and_congr_right fun _ => ?_)
  exact or_iff_left fun ⟨token, _, hpure⟩ => nomatch hpure

/-- With the credentials of a user a login fails if the user gets no principal, or the session cannot be
kept. -/
theorem State.login_eq_error_iff {s : State} {form : LoginForm} {user : User} {f : Failure}
    (huser : s.tables.userByCredentials form.email form.password = .ok user) :
    s.login settings now form = .error f ↔ principalOf settings now user = .error f ∨
      ∃ p o, principalOf settings now user = .ok p ∧
        s.sessions.login now p settings.sessionTtlSeconds = .error o ∧ f = .overflow o := by
  unfold State.login
  rw [huser, ok_bind]
  simp only [bind_eq_error_iff, orOverflow_eq_error_iff]
  refine or_congr_right (exists_congr fun p => ?_)
  constructor
  · rintro ⟨hp, ⟨o, ho, rfl⟩ | ⟨sessions, _, hpure⟩⟩
    · exact ⟨o, hp, ho, rfl⟩
    · cases hpure
  · rintro ⟨o, hp, ho, rfl⟩
    exact ⟨hp, .inl ⟨o, ho, rfl⟩⟩

/-- A login needs the credentials of a user, gives the user a principal, opens a session for it, and
notes in the tables that the user has logged in. -/
theorem State.login_eq_ok_iff {s next : State} {form : LoginForm} {p : Principal} :
    s.login settings now form = .ok (p, next) ↔ ∃ user sessions,
      s.tables.userByCredentials form.email form.password = .ok user ∧
        principalOf settings now user = .ok p ∧
        s.sessions.login now p settings.sessionTtlSeconds = .ok sessions ∧
        next = ⟨(s.tables.recordLogin now user p.token p.expires p.username).2, sessions⟩ := by
  unfold State.login
  simp only [bind_eq_ok_iff, pure_eq_ok_iff, orOverflow_eq_ok_iff]
  constructor
  · rintro ⟨user, huser, q, hq, sessions, hsessions, heq⟩
    cases heq
    exact ⟨user, sessions, huser, hq, hsessions, rfl⟩
  · rintro ⟨user, sessions, huser, hp, hsessions, rfl⟩
    exact ⟨user, huser, p, hp, sessions, hsessions, rfl⟩

/-! ### Coming back with a token -/

/-- A token leads to a session if it is acceptable and the session is in the store. -/
theorem authenticate_eq_ok_iff {token : Option String} {store : Session.Store} {session : SessionFields} :
    (authenticate settings now token store).1 = .ok session ↔ ∃ t, token = some t ∧
      (∃ claims, Token.accept settings.tokenSecret t now = .ok claims) ∧
      (store.principal now t).1 = .ok session := by
  unfold authenticate requireToken
  cases token with
  | none => simp
  | some t =>
    cases haccept : Token.accept settings.tokenSecret t now with
    | error e => simp [haccept]
    | ok claims => simp [haccept]

/-- Looking for the session of a request changes no later answer of the store. -/
theorem peek_authenticate (store : Session.Store) (h : now.micros ≤ later.micros) (token : Option String)
    (key : String) :
    (authenticate settings now token store).2.peek later key = store.peek later key := by
  unfold authenticate
  split
  · rfl
  · exact Session.Store.peek_principal store h _ key

/-- Looking for the session of a request gives no new values. -/
theorem peek_of_peek_authenticate {store : Session.Store} {token : Option String} {key : String}
    {value : Json} (h : (authenticate settings now token store).2.peek later key = some value) :
    store.peek later key = some value := by
  unfold authenticate at h
  split at h
  · exact h
  · exact Session.Store.peek_of_peek_principal h

/-- Two stores that give the same value for the token of a request let it in alike. -/
theorem authenticate_congr {store store' : Session.Store} {token : Option String}
    (h : ∀ t ∈ token, store.peek now (Text.strip t) = store'.peek now (Text.strip t)) :
    (authenticate settings now token store).1 = (authenticate settings now token store').1 := by
  unfold authenticate requireToken
  cases token with
  | none => rfl
  | some t =>
    have hvalue := h t rfl
    dsimp only
    cases Token.accept settings.tokenSecret t now with
    | error e => rfl
    | ok claims =>
      exact Session.Store.principal_congr hvalue

end Backoffice
