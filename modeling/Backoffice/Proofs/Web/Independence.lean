import Mathlib
import Backoffice.Proofs.Web.Accounts

/-!
# Sessions beside each other

A session belongs to its token, so two logins have sessions of their own exactly if they give out different
tokens.  They do unless user, address, role and the seconds of the times are the same, `token_eq_iff`.  Then
a logout with one token does nothing to the other, which stays accepted until it is logged out itself or is
over: `independent_of_run`.  Who logs in twice within a second has one session only, and the first logout
ends it (`signOut_ends_both`).
-/

namespace Backoffice.Web.Service

variable {env : Service} {s : State} {r : Request} {p q : Principal} {token other : String}
  {opened later : WallTime} {settings : Settings} {steps before after : List (Service × Request)}

/-! ### Tokens of logins -/

/-- In the run from `s` somebody has logged in at the time and got the principal. -/
def HasLogin (s : State) (steps : List (Service × Request)) (p : Principal) (opened : WallTime) : Prop :=
  ∃ before env r after, steps = before ++ (env, r) :: after ∧ env.Opens (run s before) r p ∧
    env.now = opened

/-- The token of a login is the one of a user with the number, the address and the role of the principal. -/
theorem Opens.exists_userToken (h : env.Opens s r p) : ∃ user,
    userToken env.settings env.now p.expires user = .ok p.token ∧ user.id = p.userId ∧
      user.email = p.email ∧ user.role = p.role := by
  obtain ⟨-, form, next, -, hlogin⟩ := h
  obtain ⟨user, sessions, -, hp, -, -⟩ := State.login_eq_ok_iff.mp hlogin
  obtain ⟨expires, token, -, htoken, rfl⟩ := principalOf_eq_ok_iff.mp hp
  exact ⟨user, htoken, rfl, rfl, rfl⟩

/-- Two logins give out the same token exactly if user, address and role are the same, and the tokens are
issued in the same second and expire in the same second. -/
theorem token_eq_iff {start start' : WallTime} (hfixed : ∀ step ∈ steps, step.1.settings = settings)
    (hp : HasLogin s steps p start) (hq : HasLogin s steps q start') :
    p.token = q.token ↔ p.userId = q.userId ∧ p.email = q.email ∧ p.role = q.role ∧
      start.unixTimestamp = start'.unixTimestamp ∧
      p.expires.unixTimestamp = q.expires.unixTimestamp := by
  obtain ⟨_, env, r, _, hsteps, hopens, rfl⟩ := hp
  obtain ⟨_, env', r', _, hsteps', hopens', rfl⟩ := hq
  obtain ⟨user, htoken, hid, hemail, hrole⟩ := hopens.exists_userToken
  obtain ⟨user', htoken', hid', hemail', hrole'⟩ := hopens'.exists_userToken
  rw [hfixed (env, r) (by simp [hsteps])] at htoken
  rw [hfixed (env', r') (by simp [hsteps'])] at htoken'
  rw [← hid, ← hid', ← hemail, ← hemail', ← hrole, ← hrole']
  constructor
  · intro hsame
    rw [hsame] at htoken
    exact Token.userToken_inj htoken htoken'
  · rintro ⟨hid, hemail, hrole, hissued, hexpires⟩
    rw [Token.userToken_congr hid hemail hrole hissued hexpires, htoken'] at htoken
    exact (Except.ok.inj htoken).symm

/-! ### Logouts with another token -/

/-- A logout leaves the tables as they are. -/
theorem tables_of_signOut (hasked : r.action? = some .logout) :
    (env.respond s r).2.tables = s.tables := by
  have hmoves := moves_respond env s r
  generalize (env.respond s r).2 = next at hmoves
  cases hmoves with
  | stays | looks | logsOut => rfl
  | registers asked | logsIn asked | creates asked | updates asked | deletes asked =>
    cases hasked.symm.trans asked

/-- A logout, successful or not, does nothing to the tokens other than its own. -/
theorem authenticate_of_signOut (hasked : r.action? = some .logout) (hbearer : r.bearer = some token)
    (hpoint : '.' ∈ other.toList) (hstrip : Text.strip other = other) (hne : other ≠ token)
    (hlater : env.now.micros ≤ later.micros) :
    (authenticate settings later (some other) (env.respond s r).2.sessions).1 =
      (authenticate settings later (some other) s.sessions).1 := by
  refine authenticate_congr fun t ht => ?_
  cases ht
  rw [hstrip]
  by_cases hclose : env.Closes s r token
  · rw [peek_of_closes hclose hlater hpoint, if_neg hne]
  · refine peek_of_others (fun p hp => ?_) (fun t ht => hclose ?_) hlater
    · cases hasked.symm.trans hp.1
    · rwa [Option.some.inj (hbearer.symm.trans ht.2.1)]

/-- A session that is open stays open as long as nobody logs out with its token; a login with the same token
opens it anew. -/
theorem exists_isOpen_of_never {t : WallTime} (hopen : IsOpen s before token p opened)
    (hopened : t.micros ≤ opened.micros) (hordered : ∀ step ∈ after, t.micros ≤ step.1.now.micros)
    (hkept : Never (fun env s r => env.Closes s r token) (run s before) after) :
    ∃ q opened', IsOpen s (before ++ after) token q opened' ∧ t.micros ≤ opened'.micros := by
  induction after generalizing before p opened with
  | nil => exact ⟨p, opened, by rwa [List.append_nil], hopened⟩
  | cons step after ih =>
    obtain ⟨env, r⟩ := step
    obtain ⟨hclose, hrest⟩ := hkept
    rw [← run_append_singleton] at hrest
    have hordered' : ∀ step ∈ after, t.micros ≤ step.1.now.micros :=
      fun step hstep => hordered step (List.mem_cons_of_mem _ hstep)
    rw [List.append_cons]
    by_cases hlogin : ∃ q, env.Opens (run s before) r q ∧ q.token = token
    · obtain ⟨q, hq, htoken⟩ := hlogin
      exact ih (isOpen_append_singleton_iff.mpr (.inl ⟨hq, htoken, rfl⟩))
        (hordered (env, r) List.mem_cons_self) hordered' hrest
    · refine ih (isOpen_append_singleton_iff.mpr (.inr ⟨hopen, hclose, fun q hq htoken => ?_⟩)) hopened
        hordered' hrest
      exact hlogin ⟨q, hq, htoken⟩

/-! ### Two logins of a run -/

/-- In a regular run from an empty store of sessions somebody logs in and gets the principal `q`, and before
or after that somebody gets the principal `p`.  The tokens are the same exactly if user, address, role and
the seconds of the times are the same.  If they are not, then no logout with the token of `p` does anything
to the one of `q`.  As long as nobody logs out with the token of `q` itself, it is accepted at the end of
the run, until the session is over or the token has expired in an earlier second. -/
theorem independent_of_run {cacheAnswers : Bool} {start : WallTime}
    (hplain : Token.IsPlainSecret settings.tokenSecret) (hstart : s.sessions = .start cacheAnswers)
    (hrun : IsRegular settings s (before ++ (env, r) :: after)) (hq : env.Opens (run s before) r q)
    (hp : HasLogin s (before ++ (env, r) :: after) p start) :
    (p.token = q.token ↔ p.userId = q.userId ∧ p.email = q.email ∧ p.role = q.role ∧
      start.unixTimestamp = env.now.unixTimestamp ∧
      p.expires.unixTimestamp = q.expires.unixTimestamp) ∧
    (p.token ≠ q.token → ∀ (env' : Service) (s' : State) (signOut : Request) (now : WallTime),
      signOut.action? = some .logout → signOut.bearer = some p.token → env'.now.micros ≤ now.micros →
      (authenticate settings now (some q.token) (env'.respond s' signOut).2.sessions).1 =
        (authenticate settings now (some q.token) s'.sessions).1) ∧
    (Never (fun env s r => env.Closes s r q.token) (env.respond (run s before) r).2 after →
      ∀ now : WallTime, (∀ step ∈ before ++ (env, r) :: after, step.1.now.micros ≤ now.micros) →
        (now.micros : ℤ) < env.now.micros + secondsSpan settings.sessionTtlSeconds →
        now.unixSeconds ≤ q.expires.unixTimestamp →
        ∃ q' : Principal, q'.userId = q.userId ∧ q'.token = q.token ∧
          (authenticate settings now (some q.token) (run s (before ++ (env, r) :: after)).sessions).1 =
            .ok q'.fields) := by
  have hlogin : HasLogin s (before ++ (env, r) :: after) q env.now := ⟨before, env, r, after, rfl, hq, rfl⟩
  obtain ⟨hpoint, hstrip, -⟩ := hq.token_form
  refine ⟨token_eq_iff hrun.fixed hp hlogin, ?_, ?_⟩
  · intro hne env' s' signOut now hasked hbearer hlater
    exact authenticate_of_signOut hasked hbearer hpoint hstrip (Ne.symm hne) hlater
  · intro hkept now hlater hover hvalid
    have hopen : IsOpen s (before ++ [(env, r)]) q.token q env.now :=
      isOpen_append_singleton_iff.mpr (.inl ⟨hq, rfl, rfl⟩)
    have hordered : ∀ step ∈ after, env.now.micros ≤ step.1.now.micros := fun step hstep =>
      (List.pairwise_cons.mp (List.pairwise_append.mp hrun.ordered).2.1).1 step hstep
    rw [← run_append_singleton] at hkept
    obtain ⟨q', opened, hopen', hlast⟩ := exists_isOpen_of_never hopen le_rfl hordered hkept
    rw [List.append_assoc, List.singleton_append] at hopen'
    have hlogin' : HasLogin s (before ++ (env, r) :: after) q' opened := by
      obtain ⟨before', env', r', after', hsteps, hopens, -, hnow, -⟩ := hopen'
      exact ⟨before', env', r', after', hsteps, hopens, hnow⟩
    have htoken : q'.token = q.token := by
      obtain ⟨-, -, -, -, -, -, htoken, -⟩ := hopen'
      exact htoken
    -- the same token belongs to the same user, and expires in the same second
    obtain ⟨hid, -, -, -, hexpires⟩ := (token_eq_iff hrun.fixed hlogin' hlogin).mp htoken
    obtain ⟨user, hspan, -⟩ := hopen'.exists_user hrun.fixed
    refine ⟨q', hid, htoken, ?_⟩
    rw [authenticate_run hplain hstart hrun hlater hstrip]
    exact ⟨q', opened, q'.expires, hopen', hspan, by omega, by omega, rfl⟩

/-- A token that was logged out is not accepted any more. -/
theorem authenticate_of_closes {session : SessionFields} (h : env.Closes s r token)
    (hpoint : '.' ∈ token.toList) (hstrip : Text.strip token = token)
    (hlater : env.now.micros ≤ later.micros) :
    (authenticate settings later (some token) (env.respond s r).2.sessions).1 ≠ .ok session := by
  intro hsession
  obtain ⟨t, ht, -, hprincipal⟩ := authenticate_eq_ok_iff.mp hsession
  cases ht
  obtain ⟨-, hpeek⟩ := Session.Store.principal_eq_ok_iff.mp hprincipal
  rw [hstrip, peek_of_closes h hlater hpoint, if_pos rfl] at hpeek
  cases hpeek

/-! ### One user who logs in twice -/

/-- The user can log in at any time, and again afterwards. -/
theorem exists_opens_signIn_twice {start : WallTime} (hstart : start.micros + dayMicros < calendarMicros)
    (hopened : opened.micros + dayMicros < calendarMicros) : ∃ p q,
      (atClock start).Opens signedOut signIn p ∧
      (atClock opened).Opens (run signedOut [(atClock start, signIn)]) signIn q ∧
      (p.userId = 1 ∧ p.email = "a@b.c" ∧ p.role = "USER") ∧
      (q.userId = 1 ∧ q.email = "a@b.c" ∧ q.role = "USER") := by
  have hlogin : ∀ (s : State) (now : WallTime), s.tables.Keyed → s.tables.HasAccount member →
      now.micros + dayMicros < calendarMicros → ∃ p, (atClock now).Opens s signIn p ∧
        p.userId = 1 ∧ p.email = "a@b.c" ∧ p.role = "USER" := by
    intro s now hk haccount hends
    obtain ⟨v, hv, hsame⟩ :=
      haccount.exists_userByCredentials hk rfl rfl normalizeEmail_member (by decide) verify_member
    obtain ⟨hid, hemail, -, -, hrole, -⟩ := User.of_account_eq hsame
    obtain ⟨form, hread, huser⟩ := exists_form_of_signIn hv
    obtain ⟨p, hp, hpid, hpemail, hprole⟩ :=
      (canOpen_atClock hends s.sessions).exists_opens (by decide) hread huser
    exact ⟨p, hp, hpid.trans hid, hpemail.trans hemail, hprole.trans hrole⟩
  have haccount : signedOut.tables.HasAccount member := ⟨member, List.mem_singleton_self _, rfl⟩
  have hkeyed : signedOut.tables.Keyed := keyed_signedOutAs "USER"
  obtain ⟨p, hp, hclaims⟩ := hlogin signedOut start hkeyed haccount hstart
  have hkept : Never (fun env s r => env.Rewrites s r member.id) signedOut [(atClock start, signIn)] := by
    refine ⟨?_, trivial⟩
    rintro ⟨⟨id, hasked | hasked⟩, -⟩ <;> cases hasked.symm.trans hp.1
  obtain ⟨q, hq, hclaims'⟩ := hlogin _ opened (keyed_run hkeyed _)
    (hasAccount_run hkeyed haccount hkept) hopened
  exact ⟨p, q, hp, hq, hclaims, hclaims'⟩

/-- The token of a login lives for an hour. -/
theorem expires_of_opens {expires : WallTime} (h : (atClock opened).Opens s signIn p)
    (hexpires : opened.after (hoursSpan 1) = .ok expires) : p.expires = expires := by
  obtain ⟨user, -, -, hspan, -⟩ := h.exists_user
  exact Except.ok.inj (hspan.symm.trans hexpires)

/-- The first login of the user. -/
abbrev firstLogin : Service × Request :=
  (atClock noon, signIn)

/-- Both logins and a logout are a regular run. -/
theorem isRegular_signIn_twice (hp : (atClock noon).Opens signedOut signIn p)
    (hq : (atClock opened).Opens (run signedOut [firstLogin]) signIn q)
    (hle : noon.micros ≤ opened.micros) (token : String) :
    IsRegular hourly signedOut
      ([firstLogin] ++ (atClock opened, signIn) :: [(atClock opened, signOut token)]) := by
  have hfirst : IsRegular hourly signedOut [firstLogin] := isRegular_signIn hp
  have hnumbered : (run signedOut ([firstLogin] ++ [(atClock opened, signIn)])).tables.IsNumbered := by
    rw [run_append_singleton]
    exact isNumbered_of_opens hq (hfirst.numbered _ List.prefix_rfl)
  have hsecond : IsRegular hourly signedOut ([firstLogin] ++ [(atClock opened, signIn)]) := by
    refine hfirst.append_singleton rfl ?_ hnumbered
    rw [List.forall_mem_singleton]
    exact hle
  have hthird : IsRegular hourly signedOut
      (([firstLogin] ++ [(atClock opened, signIn)]) ++ [(atClock opened, signOut token)]) := by
    refine hsecond.append_singleton rfl ?_ ?_
    · rw [List.forall_mem_append, List.forall_mem_singleton, List.forall_mem_singleton]
      exact ⟨hle, le_rfl⟩
    · rw [run_append_singleton, tables_of_signOut (action_signOut token)]
      exact hnumbered
  rwa [List.append_assoc] at hthird

/-- A second after noon. -/
def secondPastNoon : WallTime :=
  ⟨63900000001000000, by decide⟩

/-- The user logs in twice, a second apart, and out with the first token: the second one is accepted. -/
theorem independent_of_run_signIn : ∃ p q, (atClock noon).Opens signedOut signIn p ∧
    (atClock secondPastNoon).Opens (run signedOut [firstLogin]) signIn q ∧ p.token ≠ q.token ∧
    ∃ q' : Principal, q'.token = q.token ∧
      (authenticate hourly secondPastNoon (some q.token) (run signedOut ([firstLogin] ++
        (atClock secondPastNoon, signIn) ::
          [(atClock secondPastNoon, signOut p.token)])).sessions).1 = .ok q'.fields := by
  have hends : noon.micros + dayMicros < calendarMicros := by decide
  have hends' : secondPastNoon.micros + dayMicros < calendarMicros := by decide
  obtain ⟨p, q, hp, hq, -, -⟩ := exists_opens_signIn_twice hends hends'
  have hregular := isRegular_signIn_twice hp hq (by decide) p.token
  have hlogin : HasLogin signedOut ([firstLogin] ++ (atClock secondPastNoon, signIn) ::
      [(atClock secondPastNoon, signOut p.token)]) p noon := ⟨[], _, _, _, rfl, hp, rfl⟩
  have hstart : signedOut.sessions = .start true := rfl
  obtain ⟨htokens, -, haccepted⟩ := independent_of_run isPlainSecret_hourly hstart hregular hq hlogin
  have hne : p.token ≠ q.token := by
    intro hsame
    obtain ⟨-, -, -, hissued, -⟩ := htokens.mp hsame
    revert hissued
    decide
  have hkept : Never (fun env s r => env.Closes s r q.token)
      ((atClock secondPastNoon).respond (run signedOut [firstLogin]) signIn).2
      [(atClock secondPastNoon, signOut p.token)] := by
    refine ⟨fun hclose => hne ?_, trivial⟩
    have hbearer := bearer_signOut hp.token_form.2.1 hp.token_form.2.2
    exact Option.some.inj (hbearer.symm.trans hclose.2.1)
  have hlater : ∀ step ∈ [firstLogin] ++ (atClock secondPastNoon, signIn) ::
      [(atClock secondPastNoon, signOut p.token)], step.1.now.micros ≤ secondPastNoon.micros := by
    rw [List.forall_mem_append, List.forall_mem_singleton, List.forall_mem_cons, List.forall_mem_singleton]
    exact ⟨by decide, le_rfl, le_rfl⟩
  obtain ⟨q', -, htoken, hsession⟩ :=
    haccepted hkept secondPastNoon hlater (by decide) (hq.unixSeconds_le (by decide))
  exact ⟨p, q, hp, hq, hne, q', htoken, hsession⟩

/-- Half a second after noon. -/
def halfPastNoon : WallTime :=
  ⟨63900000000500000, by decide⟩

/-- The user gets the same token from both logins within a second. -/
theorem token_eq_of_halfPastNoon (hp : (atClock noon).Opens signedOut signIn p)
    (hq : (atClock halfPastNoon).Opens (run signedOut [firstLogin]) signIn q) (hid : p.userId = q.userId)
    (hemail : p.email = q.email) (hrole : p.role = q.role) : p.token = q.token := by
  have hexpires : noon.after (hoursSpan 1) = .ok ⟨63900003600000000, by decide⟩ :=
    WallTime.after_eq_ok_iff.mpr (by decide)
  have hexpires' : halfPastNoon.after (hoursSpan 1) = .ok ⟨63900003600500000, by decide⟩ :=
    WallTime.after_eq_ok_iff.mpr (by decide)
  have hfixed : ∀ step ∈ [firstLogin, (atClock halfPastNoon, signIn)], step.1.settings = hourly := by
    rw [List.forall_mem_cons, List.forall_mem_singleton]
    exact ⟨rfl, rfl⟩
  have hplogin : HasLogin signedOut [firstLogin, (atClock halfPastNoon, signIn)] p noon :=
    ⟨[], _, _, _, rfl, hp, rfl⟩
  have hqlogin : HasLogin signedOut [firstLogin, (atClock halfPastNoon, signIn)] q halfPastNoon :=
    ⟨[firstLogin], _, _, _, rfl, hq, rfl⟩
  refine (token_eq_iff hfixed hplogin hqlogin).mpr ⟨hid, hemail, hrole, by decide, ?_⟩
  rw [expires_of_opens hp hexpires, expires_of_opens hq hexpires']
  decide

/-- The user logs in twice within a second: both logins give out the same token.  It is accepted, but after
the logout of the first login it is not, although half an hour is left to both. -/
theorem signOut_ends_both : ∃ p q, (atClock noon).Opens signedOut signIn p ∧
    (atClock halfPastNoon).Opens (run signedOut [firstLogin]) signIn q ∧
    halfPastNoon.unixSeconds + 1800 < q.expires.unixSeconds ∧
    (authenticate hourly halfPastNoon (some q.token)
      (run signedOut [firstLogin, (atClock halfPastNoon, signIn)]).sessions).1 = .ok q.fields ∧
    ∀ session, (authenticate hourly halfPastNoon (some q.token)
      (run signedOut [firstLogin, (atClock halfPastNoon, signIn),
        (atClock halfPastNoon, signOut p.token)]).sessions).1 ≠ .ok session := by
  have hends : noon.micros + dayMicros < calendarMicros := by decide
  have hends' : halfPastNoon.micros + dayMicros < calendarMicros := by decide
  obtain ⟨p, q, hp, hq, ⟨hpid, hpemail, hprole⟩, ⟨hqid, hqemail, hqrole⟩⟩ :=
    exists_opens_signIn_twice hends hends'
  have htoken : p.token = q.token := token_eq_of_halfPastNoon hp hq (hpid.trans hqid.symm)
    (hpemail.trans hqemail.symm) (hprole.trans hqrole.symm)
  obtain ⟨s, hs⟩ : ∃ s, run signedOut [firstLogin, (atClock halfPastNoon, signIn)] = s := ⟨_, rfl⟩
  have haccepted : (authenticate hourly halfPastNoon (some q.token) s.sessions).1 = .ok q.fields := by
    have hnumber : fitsWord q.userId = true := by
      rw [hqid]
      decide
    have hlasting : 0 < (atClock halfPastNoon).settings.tokenTtlHours := by decide
    have hopened := authenticate_of_opens hq isPlainSecret_hourly hnumber hlasting
    have hlogin : run signedOut [firstLogin, (atClock halfPastNoon, signIn)] =
        ((atClock halfPastNoon).respond (run signedOut [firstLogin]) signIn).2 :=
      run_append_singleton _ [firstLogin] _ _
    rw [← hs, hlogin]
    exact hopened
  have hcloses : (atClock halfPastNoon).Closes s (signOut p.token) p.token := by
    have hbearer := bearer_signOut hp.token_form.2.1 hp.token_form.2.2
    refine ⟨action_signOut p.token, hbearer, q.fields, ?_⟩
    rw [hbearer, htoken]
    exact haccepted
  have hlogout : run signedOut [firstLogin, (atClock halfPastNoon, signIn),
      (atClock halfPastNoon, signOut p.token)] =
        ((atClock halfPastNoon).respond s (signOut p.token)).2 := by
    rw [← hs]
    exact run_append_singleton _ [firstLogin, (atClock halfPastNoon, signIn)] _ _
  refine ⟨p, q, hp, hq, ?_, hs ▸ haccepted, fun session => ?_⟩
  · have hexpires : halfPastNoon.after (hoursSpan 1) = .ok ⟨63900003600500000, by decide⟩ :=
      WallTime.after_eq_ok_iff.mpr (by decide)
    rw [expires_of_opens hq hexpires]
    decide
  · rw [hlogout, ← htoken]
    exact authenticate_of_closes hcloses hp.token_form.1 hp.token_form.2.1 le_rfl

end Backoffice.Web.Service
