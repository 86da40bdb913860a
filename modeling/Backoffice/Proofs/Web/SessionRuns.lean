import Mathlib
import Backoffice.Proofs.Text.Strip
import Backoffice.Proofs.Web.Sessions

/-!
# Which tokens are accepted

In a run from an empty store of sessions a token is accepted exactly if somebody has logged in with it,
nobody has logged out with it since, and neither the session nor the token is over: `session_of_run`.
The invariant of a run is that the store has the open sessions and no others, `peek_run`.
-/

namespace Backoffice.Web.Service

variable {env : Service} {s : State} {r : Request} {p q : Principal} {token : String}
  {steps : List (Service × Request)} {opened later : WallTime}

/-! ### Open sessions -/

/-- A run is a run of its beginning and one of the rest. -/
theorem run_append (s : State) (before after : List (Service × Request)) :
    run s (before ++ after) = run (run s before) after :=
  List.foldl_append

/-- The run ends with one more request. -/
theorem run_append_singleton (s : State) (steps : List (Service × Request)) (env : Service) (r : Request) :
    run s (steps ++ [(env, r)]) = (env.respond (run s steps) r).2 :=
  run_append s steps [(env, r)]

/-- A run of one request. -/
theorem run_singleton (s : State) (env : Service) (r : Request) : run s [(env, r)] = (env.respond s r).2 :=
  rfl

/-- In the run from `s` the principal is the one of the last login that gave out the token, the time is
the time of this login, and nobody has logged out with the token since. -/
def IsOpen (s : State) (steps : List (Service × Request)) (token : String) (p : Principal)
    (opened : WallTime) : Prop :=
  ∃ before env r after, steps = before ++ (env, r) :: after ∧ env.Opens (run s before) r p ∧
    p.token = token ∧ env.now = opened ∧
    ∀ mid env' r' rest, after = mid ++ (env', r') :: rest →
      ¬ env'.Closes (run s (before ++ (env, r) :: mid)) r' token ∧
        ∀ q, env'.Opens (run s (before ++ (env, r) :: mid)) r' q → q.token ≠ token

/-- One more request opens the session itself, or leaves an open one as it is. -/
theorem isOpen_append_singleton_iff :
    IsOpen s (steps ++ [(env, r)]) token p opened ↔
      (env.Opens (run s steps) r p ∧ p.token = token ∧ env.now = opened) ∨
        (IsOpen s steps token p opened ∧ ¬ env.Closes (run s steps) r token ∧
          ∀ q, env.Opens (run s steps) r q → q.token ≠ token) := by
  constructor
  · rintro ⟨before, env₀, r₀, after, hsteps, hopens, htoken, hnow, hafter⟩
    rcases List.eq_nil_or_concat after with rfl | ⟨after, last, rfl⟩
    · -- the login is the last request
      obtain ⟨rfl, hlast⟩ := List.append_inj' hsteps rfl
      cases hlast
      exact .inl ⟨hopens, htoken, hnow⟩
    · -- the login is an earlier request
      have hsplit : steps ++ [(env, r)] = (before ++ (env₀, r₀) :: after) ++ [last] := by
        rw [hsteps, List.concat_eq_append]
        simp
      obtain ⟨rfl, hlast⟩ := List.append_inj' hsplit rfl
      cases hlast
      refine .inr ⟨⟨before, env₀, r₀, after, rfl, hopens, htoken, hnow, ?_⟩, ?_⟩
      · intro mid env' r' rest hmid
        refine hafter mid env' r' (rest ++ [(env, r)]) ?_
        rw [hmid, List.concat_eq_append]
        simp
      · exact hafter after env r [] (by rw [List.concat_eq_append])
  · rintro (⟨hopens, htoken, hnow⟩ | ⟨⟨before, env₀, r₀, after, rfl, hopens, htoken, hnow, hafter⟩, hlast⟩)
    · refine ⟨steps, env, r, [], rfl, hopens, htoken, hnow, ?_⟩
      intro mid env' r' rest hmid
      exact absurd hmid.symm (by simp)
    · refine ⟨before, env₀, r₀, after ++ [(env, r)], by simp, hopens, htoken, hnow, ?_⟩
      intro mid env' r' rest hmid
      rcases List.eq_nil_or_concat rest with rfl | ⟨rest, last, rfl⟩
      · obtain ⟨rfl, hsame⟩ := List.append_inj' hmid rfl
        cases hsame
        exact hlast
      · have hsplit : after ++ [(env, r)] = (mid ++ (env', r') :: rest) ++ [last] := by
          rw [hmid, List.concat_eq_append]
          simp
        obtain ⟨rfl, -⟩ := List.append_inj' hsplit rfl
        exact hafter mid env' r' rest rfl

/-- After a login its own session is open, and the others are as they were. -/
theorem isOpen_of_opens (h : env.Opens (run s steps) r q) :
    IsOpen s (steps ++ [(env, r)]) token p opened ↔
      if token = q.token then p = q ∧ opened = env.now else IsOpen s steps token p opened := by
  rw [isOpen_append_singleton_iff]
  split_ifs with htoken
  · constructor
    · rintro (⟨hp, -, hnow⟩ | ⟨-, -, hothers⟩)
      · exact ⟨hp.unique h, hnow.symm⟩
      · exact absurd htoken.symm (hothers q h)
    · rintro ⟨rfl, rfl⟩
      exact .inl ⟨h, htoken.symm, rfl⟩
  · constructor
    · rintro (⟨hp, hsame, -⟩ | ⟨hopen, -⟩)
      · rw [hp.unique h] at hsame
        exact absurd hsame.symm htoken
      · exact hopen
    · intro hopen
      refine .inr ⟨hopen, h.not_closes, fun q' hq' => ?_⟩
      rw [hq'.unique h]
      exact Ne.symm htoken

/-- After a logout its own session is not open, and the others are as they were. -/
theorem isOpen_of_closes {other : String} (hopens : ∀ q, ¬ env.Opens (run s steps) r q)
    (h : env.Closes (run s steps) r other) :
    IsOpen s (steps ++ [(env, r)]) token p opened ↔ token ≠ other ∧ IsOpen s steps token p opened := by
  rw [isOpen_append_singleton_iff]
  constructor
  · rintro (⟨hp, -⟩ | ⟨hopen, hclose, -⟩)
    · exact absurd hp (hopens p)
    · exact ⟨fun htoken => hclose (htoken ▸ h), hopen⟩
  · rintro ⟨htoken, hopen⟩
    refine .inr ⟨hopen, fun hclose => ?_, fun q hq => absurd hq (hopens q)⟩
    exact htoken (Option.some.inj (hclose.2.1.symm.trans h.2.1))

/-- After any other request the sessions are as they were. -/
theorem isOpen_of_others (hopens : ∀ q, ¬ env.Opens (run s steps) r q)
    (hcloses : ∀ other, ¬ env.Closes (run s steps) r other) :
    IsOpen s (steps ++ [(env, r)]) token p opened ↔ IsOpen s steps token p opened := by
  rw [isOpen_append_singleton_iff]
  constructor
  · rintro (⟨hp, -⟩ | ⟨hopen, -⟩)
    · exact absurd hp (hopens p)
    · exact hopen
  · intro hopen
    exact .inr ⟨hopen, hcloses token, fun q hq => absurd hq (hopens q)⟩

/-- A run in which the settings stay, the clock does not go back, and the numbers of users fit the
database. -/
structure IsRegular (settings : Settings) (s : State) (steps : List (Service × Request)) : Prop where
  fixed : ∀ step ∈ steps, step.1.settings = settings
  ordered : steps.Pairwise fun a b => a.1.now.micros ≤ b.1.now.micros
  numbered : ∀ earlier, earlier <+: steps → (run s earlier).tables.IsNumbered

/-- The beginning of a regular run is regular. -/
theorem IsRegular.of_append {settings : Settings} {more : List (Service × Request)}
    (h : IsRegular settings s (steps ++ more)) : IsRegular settings s steps where
  fixed step hstep := h.fixed step (List.mem_append_left more hstep)
  ordered := (List.pairwise_append.mp h.ordered).1
  numbered earlier hearlier := h.numbered earlier (hearlier.trans (List.prefix_append _ _))

/-- Nothing has happened in the empty run. -/
theorem isRegular_nil {settings : Settings} (h : s.tables.IsNumbered) : IsRegular settings s [] where
  fixed := by simp
  ordered := List.Pairwise.nil
  numbered earlier hearlier := by
    rw [List.prefix_nil.mp hearlier]
    exact h

/-- A regular run stays regular with one more request that is not earlier. -/
theorem IsRegular.append_singleton {settings : Settings} (h : IsRegular settings s steps)
    (hsettings : env.settings = settings) (hnow : ∀ step ∈ steps, step.1.now.micros ≤ env.now.micros)
    (hnumbered : (run s (steps ++ [(env, r)])).tables.IsNumbered) :
    IsRegular settings s (steps ++ [(env, r)]) where
  fixed step hstep := by
    rcases List.mem_append.mp hstep with hstep | hstep
    · exact h.fixed step hstep
    · rw [List.mem_singleton.mp hstep]
      exact hsettings
  ordered := by
    refine List.pairwise_append.mpr ⟨h.ordered, List.pairwise_singleton _ _, ?_⟩
    intro step hstep last hlast
    rw [List.mem_singleton.mp hlast]
    exact hnow step hstep
  numbered earlier hearlier := by
    rcases List.prefix_concat_iff.mp hearlier with rfl | hearlier
    · exact hnumbered
    · exact h.numbered earlier hearlier

/-- After a run from an empty store there is a session under a token exactly if it is open and its life
time is not over. -/
theorem peek_run {settings : Settings} {cacheAnswers : Bool} (hstart : s.sessions = .start cacheAnswers)
    (hrun : IsRegular settings s steps) (hlater : ∀ step ∈ steps, step.1.now.micros ≤ later.micros)
    (hpoint : '.' ∈ token.toList) (value : Json) :
    (run s steps).sessions.peek later token = some value ↔ ∃ p opened, IsOpen s steps token p opened ∧
      (later.micros : ℤ) < opened.micros + secondsSpan settings.sessionTtlSeconds ∧
        value = .obj p.fields := by
  induction steps using List.reverseRecOn with
  | nil =>
    change s.sessions.peek later token = some value ↔ _
    rw [hstart, Session.Store.peek_start]
    constructor
    · intro h
      cases h
    · rintro ⟨p, opened, ⟨before, env, r, after, hsteps, -⟩, -⟩
      exact absurd hsteps (by simp)
  | append_singleton steps step ih =>
    obtain ⟨env, r⟩ := step
    have hnow : env.now.micros ≤ later.micros := hlater (env, r) (by simp)
    have hbefore := ih hrun.of_append fun step hstep => hlater step (List.mem_append_left _ hstep)
    rw [run_append_singleton]
    by_cases hopens : ∃ q, env.Opens (run s steps) r q
    · obtain ⟨q, hq⟩ := hopens
      simp only [isOpen_of_opens hq]
      rw [peek_of_opens hq (hrun.numbered steps (List.prefix_append _ _)) hpoint,
        hrun.fixed (env, r) (by simp)]
      by_cases htoken : token = q.token
      · simp only [if_pos htoken]
        constructor
        · intro h
          split_ifs at h with hover
          cases h
          exact ⟨q, env.now, ⟨rfl, rfl⟩, hover, rfl⟩
        · rintro ⟨p, opened, ⟨rfl, rfl⟩, hover, rfl⟩
          rw [if_pos hover]
      · simp only [if_neg htoken]
        exact hbefore
    · rw [not_exists] at hopens
      by_cases hcloses : ∃ other, env.Closes (run s steps) r other
      · obtain ⟨other, hother⟩ := hcloses
        simp only [isOpen_of_closes hopens hother]
        rw [peek_of_closes hother hnow hpoint]
        by_cases htoken : token = other
        · simp [htoken]
        · rw [if_neg htoken, hbefore]
          simp only [ne_eq, htoken, not_false_eq_true, true_and]
      · rw [not_exists] at hcloses
        simp only [isOpen_of_others hopens hcloses]
        rw [peek_of_others hopens hcloses hnow, hbefore]

/-! ### Tokens after a run -/

/-- The token of an open session was issued when the session was opened. -/
theorem IsOpen.exists_user {settings : Settings} (h : IsOpen s steps token p opened)
    (hfixed : ∀ step ∈ steps, step.1.settings = settings) :
    ∃ user, opened.after (hoursSpan settings.tokenTtlHours) = .ok p.expires ∧
      userToken settings opened p.expires user = .ok token := by
  obtain ⟨before, env, r, after, rfl, hopens, rfl, rfl, -⟩ := h
  obtain ⟨user, -, -, hexpires, htoken⟩ := hopens.exists_user
  rw [hfixed (env, r) (by simp)] at hexpires htoken
  exact ⟨user, hexpires, htoken⟩

/-- After a regular run from an empty store of sessions a token is accepted exactly if its session is
open and neither the session nor the token is over; the token is valid up to the second in which it
expires. -/
theorem authenticate_run {settings : Settings} {cacheAnswers : Bool} {now : WallTime}
    {session : SessionFields} (hplain : Token.IsPlainSecret settings.tokenSecret)
    (hstart : s.sessions = .start cacheAnswers) (hrun : IsRegular settings s steps)
    (hlater : ∀ step ∈ steps, step.1.now.micros ≤ now.micros) (htoken : Text.strip token = token) :
    (authenticate settings now (some token) (run s steps).sessions).1 = .ok session ↔
      ∃ p opened expires, IsOpen s steps token p opened ∧
        opened.after (hoursSpan settings.tokenTtlHours) = .ok expires ∧
        (now.micros : ℤ) < opened.micros + secondsSpan settings.sessionTtlSeconds ∧
        now.unixSeconds ≤ expires.unixTimestamp ∧ session = p.fields := by
  rw [authenticate_eq_ok_iff]
  constructor
  · rintro ⟨t, ht, ⟨claims, haccept⟩, hprincipal⟩
    cases ht
    have hpoint := Token.point_mem_of_accept haccept
    obtain ⟨-, hpeek⟩ := Session.Store.principal_eq_ok_iff.mp hprincipal
    rw [htoken, peek_run hstart hrun hlater hpoint] at hpeek
    obtain ⟨p, opened, hopen, hover, hfields⟩ := hpeek
    obtain ⟨user, hexpires, hissued⟩ := hopen.exists_user hrun.fixed
    have hvalid := (Token.exists_accept_userToken_iff hplain hissued now).mp ⟨claims, haccept⟩
    cases hfields
    exact ⟨p, opened, p.expires, hopen, hexpires, hover, hvalid, rfl⟩
  · rintro ⟨p, opened, expires, hopen, hexpires, hover, hvalid, rfl⟩
    obtain ⟨user, hexpires', hissued⟩ := hopen.exists_user hrun.fixed
    rw [hexpires] at hexpires'
    cases hexpires'
    have hpoint := Token.point_mem_userToken hissued
    have haccept := (Token.exists_accept_userToken_iff hplain hissued now).mpr hvalid
    refine ⟨token, rfl, haccept, Session.Store.principal_eq_ok_iff.mpr ⟨?_, ?_⟩⟩
    · rw [htoken]
      rintro rfl
      cases hpoint
    · rw [htoken, peek_run hstart hrun hlater hpoint]
      exact ⟨p, opened, hopen, hover, rfl⟩

/-- The token that a request brings has no blanks at its ends. -/
theorem strip_of_bearer (h : r.bearer = some token) : Text.strip token = token := by
  obtain ⟨header, -, hread⟩ := Option.bind_eq_some_iff.mp h
  unfold Request.readBearer at hread
  split at hread
  · split_ifs at hread
    exact (Text.strip_of_nonBlank? hread).1
  · cases hread

/-! ### A login and a logout -/

/-- Settings under which tokens live for an hour. -/
def hourly : Settings :=
  { Settings.standard "" "" with tokenTtlHours := 1 }

/-- A service under these settings at a time. -/
def atClock (now : WallTime) : Service :=
  ⟨hourly, [], "name", now, default, "", .byNumber⟩

/-- A user with the password `secret`, which is digested in one round. -/
def member : User :=
  ⟨1, none, none, "a@b.c", "$pbkdf2-sha256$1$$yOzg0tRe3rqckPMNCizhCHQxHsBV9rdKolwZhmd9tmA", "s", false,
    none, "USER", true, none, none, none, none, some false, none, none, none, none, none, none⟩

/-- The state before anybody has logged in, with a shared cache for the sessions. -/
def signedOut : State :=
  ⟨⟨[], [member], [], []⟩, .start true⟩

/-- The login of the user. -/
def signIn : Request :=
  ⟨"POST", "/api/auth/login", "", [], some (.obj [("email", .str "a@b.c"), ("password", .str "secret")])⟩

/-- The logout with a token. -/
def signOut (token : String) : Request :=
  ⟨"POST", "/api/auth/logout", "", [("Authorization", "Bearer " ++ token)], none⟩

/-- The secret of the settings is a plain one. -/
theorem isPlainSecret_hourly : Token.IsPlainSecret hourly.tokenSecret :=
  ⟨by decide, by decide⟩

/-- The user with a role, signed out. -/
def signedOutAs (role : String) : State :=
  ⟨⟨[], [{ member with role }], [], []⟩, .start true⟩

/-- The address of the user is in its normal form. -/
theorem normalizeEmail_member : normalizeEmail (some "a@b.c") = "a@b.c" := by
  decide

/-- The password of the user is the one of the stored text. -/
theorem verify_member : Password.verify "secret" member.salt member.password = .ok true := by
  decide +kernel

/-- The one user has a number and an address that nobody else has. -/
theorem keyed_signedOutAs (role : String) : (signedOutAs role).tables.Keyed := by
  refine ⟨List.pairwise_singleton _ _, fun u hu => ?_⟩
  rw [List.mem_singleton.mp hu]
  exact normalizeEmail_member

/-- The user is known by the credentials, whatever the role is. -/
theorem userByCredentials_member (role : String) :
    (signedOutAs role).tables.userByCredentials "a@b.c" "secret" = .ok { member with role } := by
  have hfound : (signedOutAs role).tables.userByEmail? (some "a@b.c") = some { member with role } := by
    refine (keyed_signedOutAs role).userByEmail?_eq_some_iff.mpr
      ⟨?_, List.mem_singleton_self _, rfl, normalizeEmail_member.symm⟩
    rw [normalizeEmail_member]
    decide
  unfold Tables.userByCredentials
  rw [hfound]
  simp only [verify_member, ok_bind]
  rfl

/-- The login opens a session for the user, if its token expires within the calendar. -/
theorem exists_opens_signedOutAs (role : String) {opened expires : WallTime}
    (h : opened.after (hoursSpan 1) = .ok expires) :
    ∃ p, (atClock opened).Opens (signedOutAs role) signIn p ∧ p.userId = 1 ∧ p.role = role := by
  obtain ⟨token, htoken⟩ :=
    Token.exists_userToken isPlainSecret_hourly opened expires { member with role }
  refine ⟨⟨1, "a@b.c", member.displayName, none, role, token, expires⟩, ⟨by decide,
    ⟨"a@b.c", "secret"⟩, _, rfl, State.login_eq_ok_iff.mpr ⟨_, _, userByCredentials_member role,
      principalOf_eq_ok_iff.mpr ⟨expires, token, h, htoken, rfl⟩, rfl, rfl⟩⟩, rfl, rfl⟩

/-- The login opens a session, if its token expires within the calendar. -/
theorem exists_opens_signIn {opened expires : WallTime}
    (h : opened.after (hoursSpan 1) = .ok expires) :
    ∃ p, (atClock opened).Opens signedOut signIn p := by
  obtain ⟨p, hp, -⟩ := exists_opens_signedOutAs "USER" h
  exact ⟨p, hp⟩

/-- The login alone is a run that is over at its own time. -/
theorem now_le_of_mem_signIn :
    ∀ step ∈ [(atClock opened, signIn)], step.1.now.micros ≤ opened.micros := by
  intro step hstep
  rw [List.mem_singleton.mp hstep]
  exact le_rfl

/-- The login alone is a regular run. -/
theorem isRegular_signIn {role : String} (h : (atClock opened).Opens (signedOutAs role) signIn p) :
    IsRegular hourly (signedOutAs role) [(atClock opened, signIn)] := by
  have hstart : (signedOutAs role).tables.IsNumbered := by
    intro u hu
    rw [List.mem_singleton.mp hu]
    rfl
  have hnumbered : (run (signedOutAs role) ([] ++ [(atClock opened, signIn)])).tables.IsNumbered := by
    rw [run_append_singleton]
    exact isNumbered_of_opens h hstart
  exact (isRegular_nil hstart).append_singleton rfl (by simp) hnumbered

/-- After the login its session is open. -/
theorem isOpen_signIn (h : (atClock opened).Opens s signIn p) :
    IsOpen s [(atClock opened, signIn)] p.token p opened :=
  ⟨[], atClock opened, signIn, [], rfl, h, rfl, rfl, by simp⟩

/-- The logout is asked for as one. -/
theorem action_signOut (token : String) : (signOut token).action? = some .logout := by
  have hsame : (signOut token).action? = (signOut "").action? := rfl
  rw [hsame]
  decide

/-- The token of a user is the one that the logout brings. -/
theorem bearer_signOut {token : String} (hstrip : Text.strip token = token) (hne : token ≠ "") :
    (signOut token).bearer = some token := by
  have hheader : ("Bearer " ++ token).toList = "Bearer".toList ++ ' ' :: token.toList := by
    rw [String.toList_append]
    rfl
  have hbearer : (signOut token).header "Authorization" = some ("Bearer " ++ token) := by
    unfold signOut Request.header
    simp
  unfold Request.bearer Request.readBearer
  rw [hbearer, Option.bind_some, hheader, Text.splitFirst_append (by decide)]
  simp only [String.ofList_toList]
  rw [if_pos (by decide)]
  exact Text.nonBlank?_some_of_strip hstrip hne

/-- The token that the login gives out has no blanks, and it is not empty. -/
theorem strip_token_signIn (h : (atClock opened).Opens s signIn p) :
    Text.strip p.token = p.token ∧ p.token ≠ "" :=
  h.token_form.2

/-- After the login the token is accepted although the second is over in which it expires. -/
def Outlives (opened now : WallTime) : Prop :=
  ∃ p expires, IsOpen signedOut [(atClock opened, signIn)] p.token p opened ∧
    opened.after (hoursSpan hourly.tokenTtlHours) = .ok expires ∧ expires.unixSeconds < now.unixSeconds ∧
    (authenticate hourly now (some p.token) (run signedOut [(atClock opened, signIn)]).sessions).1 =
      .ok p.fields

/-- A token outlives its second if its time of expiry counts as a later one. -/
theorem outlives_of_lt {expires now : WallTime} (hexpires : opened.after (hoursSpan 1) = .ok expires)
    (hover : (now.micros : ℤ) < opened.micros + secondsSpan hourly.sessionTtlSeconds)
    (hpast : expires.unixSeconds < now.unixSeconds) (hvalid : now.unixSeconds ≤ expires.unixTimestamp)
    (hle : opened.micros ≤ now.micros) : Outlives opened now := by
  obtain ⟨p, hp⟩ := exists_opens_signIn hexpires
  have hlater : ∀ step ∈ [(atClock opened, signIn)], step.1.now.micros ≤ now.micros := by
    intro step hstep
    rw [List.mem_singleton.mp hstep]
    exact hle
  refine ⟨p, expires, isOpen_signIn hp, hexpires, hpast, ?_⟩
  have hstart : signedOut.sessions = .start true := rfl
  rw [authenticate_run isPlainSecret_hourly hstart (isRegular_signIn hp) hlater (strip_token_signIn hp).1]
  exact ⟨p, opened, expires, isOpen_signIn hp, hexpires, hover, hvalid, rfl⟩

/-! ### Which tokens are accepted -/

/-- After a regular run from an empty store of sessions a request that brings a token is let in exactly
if somebody has logged in with the token, the last such login was after all logouts with it, the session
that it opened is not over, and the token has not expired in an earlier second.  The session is then the
one of this login.  The second in which a token expires is the one that its time of expiry lies in, from
1970 to the year 2514. -/
theorem session_of_run {settings : Settings} {cacheAnswers : Bool} {now : WallTime}
    {session : SessionFields} (hplain : Token.IsPlainSecret settings.tokenSecret)
    (hstart : s.sessions = .start cacheAnswers) (hrun : IsRegular settings s steps)
    (hlater : ∀ step ∈ steps, step.1.now.micros ≤ now.micros) (hbearer : r.bearer = some token) :
    ((authenticate settings now r.bearer (run s steps).sessions).1 = .ok session ↔
      ∃ p opened expires, IsOpen s steps token p opened ∧
        opened.after (hoursSpan settings.tokenTtlHours) = .ok expires ∧
        (now.micros : ℤ) < opened.micros + secondsSpan settings.sessionTtlSeconds ∧
        now.unixSeconds ≤ expires.unixTimestamp ∧ session = p.fields) ∧
      ∀ expires : WallTime, 0 ≤ expires.unixMicros → expires.unixMicros < 2 ^ 34 * secondMicros →
        expires.unixTimestamp = expires.unixSeconds := by
  refine ⟨?_, fun expires => WallTime.unixTimestamp_eq_unixSeconds⟩
  rw [hbearer]
  exact authenticate_run hplain hstart hrun hlater (strip_of_bearer hbearer)

/-- A token that expires in the last half second of 1969 is accepted at the beginning of 1970, and one
that expires in the last microsecond of a second of the year 2600 is accepted in the next second. -/
theorem outlives_far_from_now :
    Outlives ⟨62135593199500000, by decide⟩ ⟨62135596800000000, by decide⟩ ∧
      Outlives ⟨82016496000999999, by decide⟩ ⟨82016499601000000, by decide⟩ := by
  have hexpires : WallTime.after ⟨62135593199500000, by decide⟩ (hoursSpan 1) =
      .ok ⟨62135596799500000, by decide⟩ := WallTime.after_eq_ok_iff.mpr (by decide)
  have hexpires' : WallTime.after ⟨82016496000999999, by decide⟩ (hoursSpan 1) =
      .ok ⟨82016499600999999, by decide⟩ := WallTime.after_eq_ok_iff.mpr (by decide)
  constructor
  · exact outlives_of_lt hexpires (by decide +kernel) (by decide +kernel) (by decide +kernel) (by decide)
  · exact outlives_of_lt hexpires' (by decide +kernel) (by decide +kernel) (by decide +kernel) (by decide)

/-- A time at which the service is used. -/
def noon : WallTime :=
  ⟨63900000000000000, by decide⟩

/-- After the login the token is accepted, and after the logout it is not. -/
theorem session_until_signOut : ∃ p, (atClock noon).Opens signedOut signIn p ∧
    (authenticate hourly noon (signOut p.token).bearer
      (run signedOut [(atClock noon, signIn)]).sessions).1 = .ok p.fields ∧
    ∀ session, (authenticate hourly noon (signOut p.token).bearer
      (run signedOut [(atClock noon, signIn), (atClock noon, signOut p.token)]).sessions).1 ≠
        .ok session := by
  have hexpires : noon.after (hoursSpan 1) = .ok ⟨63900003600000000, by decide⟩ :=
    WallTime.after_eq_ok_iff.mpr (by decide)
  obtain ⟨p, hp⟩ := exists_opens_signIn hexpires
  have hbearer : (signOut p.token).bearer = some p.token :=
    bearer_signOut (strip_token_signIn hp).1 (strip_token_signIn hp).2
  have hstart : signedOut.sessions = .start true := rfl
  have hregular := isRegular_signIn hp
  have haccepted := (session_of_run isPlainSecret_hourly hstart hregular now_le_of_mem_signIn hbearer).1.mpr
    ⟨p, noon, _, isOpen_signIn hp, hexpires, by decide +kernel, by decide +kernel, rfl⟩
  refine ⟨p, hp, haccepted, fun session hsession => ?_⟩
  have hcloses : (atClock noon).Closes (run signedOut [(atClock noon, signIn)]) (signOut p.token) p.token :=
    ⟨action_signOut p.token, hbearer, _, haccepted⟩
  have hnumbered : (run signedOut ([(atClock noon, signIn)] ++
      [(atClock noon, signOut p.token)])).tables.IsNumbered := by
    rw [run_append_singleton, tables_of_closes hcloses]
    exact hregular.numbered _ List.prefix_rfl
  have hnow : ∀ step ∈ [(atClock noon, signIn)] ++ [(atClock noon, signOut p.token)],
      step.1.now.micros ≤ noon.micros := by
    intro step hstep
    rcases List.mem_append.mp hstep with hstep | hstep
    · exact now_le_of_mem_signIn step hstep
    · rw [List.mem_singleton.mp hstep]
      exact le_rfl
  obtain ⟨q, opened, expires, hopen, -⟩ := (session_of_run isPlainSecret_hourly hstart
    (hregular.append_singleton rfl now_le_of_mem_signIn hnumbered) hnow hbearer).1.mp hsession
  exact ((isOpen_of_closes (fun q hq => hq.not_closes hcloses) hcloses).mp hopen).1 rfl

end Backoffice.Web.Service
