import Mathlib
import Backoffice.Proofs.Directory.Standing
import Backoffice.Proofs.Web.Deletion

/-!
# What a session says of its user

A session is a picture of the user at the time of the login: then the row of the user backs the principal,
but the row may change while the session stays.  The row backs the principal as long as no administrator
takes away what the principal says, and whatever an administrator does to the row, the session is accepted
as before (`Service.snapshot_of_run`).
-/

namespace Backoffice.Web.Service

variable {env : Service} {s : State} {r : Request} {p : Principal} {token : String} {later : WallTime}
  {steps : List (Service × Request)}

/-! ### Requests of a run -/

/-- None of the requests of the run from the state is of the kind. -/
def Never (kind : Service → State → Request → Prop) : State → List (Service × Request) → Prop
  | _, [] => True
  | s, (env, r) :: steps => ¬ kind env s r ∧ Never kind (env.respond s r).2 steps

/-- None of the requests is of the kind if none is at its place. -/
theorem never_of_forall {kind : Service → State → Request → Prop} (h : ∀ mid env r rest,
    steps = mid ++ (env, r) :: rest → ¬ kind env (run s mid) r) : Never kind s steps := by
  induction steps generalizing s with
  | nil => trivial
  | cons step steps ih =>
    refine ⟨h [] step.1 step.2 steps rfl, ih fun mid env r rest hrest => ?_⟩
    exact h (step :: mid) env r rest (by rw [hrest, List.cons_append])

/-! ### Where sessions come from -/

/-- A request that is no login gives the store no new sessions, and none of the token that it logs out. -/
theorem peek_of_peek_respond (hopens : ∀ q, ¬ env.Opens s r q) {value : Json}
    (h : (env.respond s r).2.sessions.peek later token = some value) :
    ¬ env.Closes s r token ∧ s.sessions.peek later token = some value := by
  -- only a logout leaves less than what the check of the bearer leaves
  by_cases hcloses : ∃ other, env.Closes s r other
  · obtain ⟨other, hother⟩ := hcloses
    rw [respond_state, carryOut_of_closes hother] at h
    obtain ⟨hne, hkept⟩ := Session.Store.peek_of_peek_logout h
    refine ⟨fun hclose => hne ?_, peek_of_peek_authenticate hkept⟩
    exact Option.some.inj (hclose.2.1.symm.trans hother.2.1)
  · rw [not_exists] at hcloses
    refine ⟨hcloses token, ?_⟩
    have hauth : (authenticate env.settings env.now r.bearer s.sessions).2.peek later token =
      some value → s.sessions.peek later token = some value := peek_of_peek_authenticate
    have hmoves := moves_respond env s r
    generalize (env.respond s r).2 = next at hmoves h
    cases hmoves with
    | stays => exact h
    | looks => exact hauth h
    | registers => exact h
    | logsIn asked read done => exact absurd ⟨asked, _, _, read, done⟩ (hopens _)
    | logsOut asked found =>
      obtain ⟨t, ht, -, -⟩ := authenticate_eq_ok_iff.mp (congrArg Prod.fst found)
      exact absurd ⟨asked, ht, _, congrArg Prod.fst found⟩ (hcloses t)
    | creates asked found | updates asked found | deletes asked found =>
      rw [found] at hauth
      exact hauth h

/-- What the store gives under a token after a run from an empty store is an open session, whatever the
clock of the requests said. -/
theorem exists_isOpen_of_peek {cacheAnswers : Bool} (hstart : s.sessions = .start cacheAnswers)
    (hnumbered : ∀ earlier, earlier <+: steps → (run s earlier).tables.IsNumbered)
    (hpoint : '.' ∈ token.toList) {value : Json}
    (hpeek : (run s steps).sessions.peek later token = some value) :
    ∃ p opened, IsOpen s steps token p opened ∧ value = .obj p.fields := by
  -- from the end of the run: the last request has opened the session, or it was there before
  induction steps using List.reverseRecOn with
  | nil =>
    change s.sessions.peek later token = some value at hpeek
    rw [hstart, Session.Store.peek_start] at hpeek
    cases hpeek
  | append_singleton steps step ih =>
    obtain ⟨env, r⟩ := step
    have hbefore := ih fun earlier hearlier => hnumbered earlier (hearlier.trans (List.prefix_append _ _))
    rw [run_append_singleton] at hpeek
    by_cases hopens : ∃ q, env.Opens (run s steps) r q
    · obtain ⟨q, hq⟩ := hopens
      simp only [isOpen_of_opens hq]
      rw [peek_of_opens hq (hnumbered steps (List.prefix_append _ _)) hpoint] at hpeek
      split_ifs at hpeek with htoken hover
      · cases hpeek
        exact ⟨q, env.now, by rw [if_pos htoken]; exact ⟨rfl, rfl⟩, rfl⟩
      · simp only [if_neg htoken]
        exact hbefore hpeek
    · rw [not_exists] at hopens
      obtain ⟨hclose, hkept⟩ := peek_of_peek_respond hopens hpeek
      obtain ⟨p, opened, hopen, hvalue⟩ := hbefore hkept
      exact ⟨p, opened, isOpen_append_singleton_iff.mpr
        (.inr ⟨hopen, hclose, fun q hq => absurd hq (hopens q)⟩), hvalue⟩

/-- Who is let in after a run from an empty store has the session that is open under the token. -/
theorem exists_isOpen_of_found {cacheAnswers : Bool} {settings : Settings} {now : WallTime}
    {session : SessionFields} (hstart : s.sessions = .start cacheAnswers)
    (hnumbered : ∀ earlier, earlier <+: steps → (run s earlier).tables.IsNumbered)
    (hfound : (authenticate settings now r.bearer (run s steps).sessions).1 = .ok session) :
    ∃ p opened, IsOpen s steps p.token p opened ∧ r.bearer = some p.token ∧ session = p.fields := by
  obtain ⟨token, hbearer, ⟨claims, haccept⟩, hprincipal⟩ := authenticate_eq_ok_iff.mp hfound
  have hpeek := (Session.Store.principal_eq_ok_iff.mp hprincipal).2
  rw [strip_of_bearer hbearer] at hpeek
  obtain ⟨p, opened, hopen, hvalue⟩ :=
    exists_isOpen_of_peek hstart hnumbered (Token.point_mem_of_accept haccept) hpeek
  have htoken : p.token = token := by
    obtain ⟨-, -, -, -, -, -, htoken, -⟩ := hopen
    exact htoken
  subst htoken
  cases hvalue
  exact ⟨p, opened, hopen, hbearer, rfl⟩

/-! ### What administrators do to a user -/

/-- A change that was carried out was asked for in a session, and has applied its form to the row of a user
in its name. -/
theorem updateUser_of_reply {id : String} {reply : Reply} (hasked : r.action? = some (.updateUser id))
    (hreply : (env.carryOut s r).1 = .ok reply) : ∃ n form user changed session,
      readUserId id = .ok n ∧ readBody UserEditForm.read r = .ok form ∧
      s.tables.userById n = .ok user ∧
      form.patch.applyTo user env.now session.actorLabel = .ok changed ∧
      (env.respond s r).2.tables = s.tables.replaceUser user.id changed ∧
      (env.respond s r).1.status = 200 ∧
      (authenticate env.settings env.now r.bearer s.sessions).1 = .ok session := by
  have hperform : env.carryOut s r = env.withSession s r fun session s => env.updateUser session id s r :=
    carryOut_of_action hasked
  obtain ⟨session, sessions, next, hfound, hact, hnext⟩ := exists_session_of_reply hperform hreply
  rw [status_of_ok hreply, hnext]
  obtain ⟨n, form, user, changed, tables, -, hn, hform, huser, hupdate, rfl, rfl⟩ :=
    updateUser_eq_ok_iff.mp hact
  obtain ⟨rfl, -, hchanged⟩ := Tables.of_updateUser hupdate
  exact ⟨n, form, user, changed, session, hn, hform, huser, hchanged, rfl, rfl, congrArg Prod.fst hfound⟩

/-- The request is carried out and takes from the user of the principal what the principal says: it
deletes the user, makes the user inactive, or gives the user another role. -/
inductive Withdraws (env : Service) (s : State) (r : Request) (p : Principal) : Prop
  | deletes {id : String} (asked : r.action? = some (.deleteUser id))
      (number : readUserId id = .ok p.userId) (done : (env.respond s r).1.status = 200)
  | changes {id : String} {form : UserEditForm} (asked : r.action? = some (.updateUser id))
      (number : readUserId id = .ok p.userId) (read : readBody UserEditForm.read r = .ok form)
      (strips : form.Strips p) (done : (env.respond s r).1.status = 200)

/-- A request that withdraws what the principal says leaves a row that does not back it. -/
theorem Withdraws.not_backs (h : env.Withdraws s r p) : ¬ (env.respond s r).2.tables.Backs p := by
  cases h with
  | deletes asked number done =>
    obtain ⟨reply, hreply⟩ := exists_reply_of_status (lt_of_eq_of_lt done (by decide))
    obtain ⟨n, user, session, hn, huser, htables, -⟩ := softDeleteUser_of_reply asked hreply
    cases number.symm.trans hn
    rw [htables]
    refine Tables.not_backs_replaceUser (Tables.mem_of_userById huser).2.1 ?_
    rintro ⟨hlive, -⟩
    cases hlive
  | changes asked number read strips done =>
    obtain ⟨reply, hreply⟩ := exists_reply_of_status (lt_of_eq_of_lt done (by decide))
    obtain ⟨n, form, user, changed, session, hn, hform, huser, hchanged, htables, -⟩ :=
      updateUser_of_reply asked hreply
    cases number.symm.trans hn
    cases read.symm.trans hform
    rw [htables]
    exact Tables.not_backs_replaceUser (Tables.mem_of_userById huser).2.1 (strips.not_backs hchanged)

/-- A request that withdraws nothing of what the principal says leaves its row such that it backs the
principal. -/
theorem backs_respond (hnumbers : s.tables.HasDistinctNumbers) (h : s.tables.Backs p)
    (hkept : ¬ env.Withdraws s r p) : (env.respond s r).2.tables.Backs p := by
  rcases exists_reply_or_tables_eq env s r with ⟨reply, hreply⟩ | hsame
  · have hmoves := moves_respond env s r
    obtain ⟨next, hnext⟩ : ∃ next, (env.respond s r).2 = next := ⟨_, rfl⟩
    rw [hnext] at hmoves
    cases hmoves with
    | stays | looks | logsOut =>
      rw [hnext]
      exact h
    | registers asked read done =>
      obtain ⟨actor, draft, hcreate⟩ := Tables.createUser_of_register done
      rw [hnext]
      exact h.createUser hnumbers hcreate
    | creates asked found permitted done =>
      obtain ⟨draft, hcreate⟩ := Tables.createUser_of_addUser done
      rw [hnext]
      exact h.createUser hnumbers hcreate
    | logsIn asked read done =>
      obtain ⟨user, sessions, huser, -, -, rfl⟩ := State.login_eq_ok_iff.mp done
      rw [hnext]
      -- a login writes other columns of the row
      exact h.replaceUser hnumbers (Tables.mem_of_userByCredentials huser) rfl fun _ hbacks => hbacks
    | updates asked =>
      obtain ⟨n, form, user, changed, session, hn, hform, huser, hchanged, htables, hstatus, -⟩ :=
        updateUser_of_reply asked hreply
      obtain ⟨hmem, hid, -⟩ := Tables.mem_of_userById huser
      rw [htables]
      refine h.replaceUser hnumbers hmem (UserEditForm.of_applyTo hchanged).1 fun hnumber hbacks => ?_
      rw [← hid, hnumber] at hn
      exact hbacks.of_applyTo hchanged fun hstrips => hkept (.changes asked hn hform hstrips hstatus)
    | deletes asked =>
      obtain ⟨n, user, session, hn, huser, htables, hstatus, -⟩ := softDeleteUser_of_reply asked hreply
      obtain ⟨hmem, hid, -⟩ := Tables.mem_of_userById huser
      rw [htables]
      refine h.replaceUser hnumbers hmem rfl fun hnumber _ => ?_
      rw [← hid, hnumber] at hn
      exact absurd (.deletes asked hn hstatus) hkept
  · rw [hsame]
    exact h

/-- A run in which nothing is withdrawn of what the principal says leaves its row such that it backs the
principal. -/
theorem backs_run (hnumbers : s.tables.HasDistinctNumbers) (h : s.tables.Backs p)
    (hkept : Never (fun env s r => env.Withdraws s r p) s steps) : (run s steps).tables.Backs p := by
  induction steps generalizing s with
  | nil => exact h
  | cons step steps ih =>
    have hnumbers' := (writes_of_moves hnumbers (moves_respond step.1 s step.2)).1
    exact ih hnumbers' (backs_respond hnumbers h hkept.1) hkept.2

/-- No move takes the row of a number away. -/
theorem mem_ids_of_moves {next : State} {n : ℤ} (hn : n ∈ s.tables.users.map (·.id))
    (h : Moves env s r next) : n ∈ next.tables.users.map (·.id) := by
  have hadded : ∀ u : User, n ∈ (s.tables.users ++ [u]).map (·.id) := by
    intro u
    rw [List.map_append]
    exact List.mem_append_left _ hn
  have hreplaced : ∀ user changed : User, changed.id = user.id →
      n ∈ (s.tables.replaceUser user.id changed).users.map (·.id) := by
    intro user changed hid
    rw [Tables.map_id_replaceUser hid]
    exact hn
  cases h with
  | stays | looks | logsOut => exact hn
  | registers asked read done =>
    obtain ⟨actor, draft, hcreate⟩ := Tables.createUser_of_register done
    obtain ⟨rfl, -, -⟩ := Tables.of_createUser hcreate
    exact hadded _
  | creates asked found permitted done =>
    obtain ⟨draft, hcreate⟩ := Tables.createUser_of_addUser done
    obtain ⟨rfl, -, -⟩ := Tables.of_createUser hcreate
    exact hadded _
  | logsIn asked read done =>
    obtain ⟨user, sessions, -, -, -, rfl⟩ := State.login_eq_ok_iff.mp done
    exact hreplaced user _ rfl
  | updates asked found permitted known done =>
    obtain ⟨rfl, -, hchanged⟩ := Tables.of_updateUser done
    exact hreplaced _ _ (UserEditForm.of_applyTo hchanged).1
  | deletes => exact hreplaced _ _ rfl

/-- What an administrator does to a user changes nothing about who is let in. -/
theorem authenticate_of_write {id : String} {settings : Settings}
    (hasked : r.action? = some (.updateUser id) ∨ r.action? = some (.deleteUser id))
    (hlater : env.now.micros ≤ later.micros) (bearer : Option String) :
    (authenticate settings later bearer (env.respond s r).2.sessions).1 =
      (authenticate settings later bearer s.sessions).1 := by
  have hopens : ∀ p, ¬ env.Opens s r p := by
    intro p hp
    rcases hasked with hasked | hasked <;> cases hasked.symm.trans hp.1
  have hcloses : ∀ token, ¬ env.Closes s r token := by
    intro token hclose
    rcases hasked with hasked | hasked <;> cases hasked.symm.trans hclose.1
  exact authenticate_congr fun _ _ => peek_of_others hopens hcloses hlater

/-! ### Sessions over runs -/

/-- A login is made by a user who backs the principal. -/
theorem Opens.backs (hnumbers : s.tables.HasDistinctNumbers) (h : env.Opens s r p) : s.tables.Backs p := by
  obtain ⟨-, form, next, -, hlogin⟩ := h
  obtain ⟨user, sessions, huser, hp, -, -⟩ := State.login_eq_ok_iff.mp hlogin
  obtain ⟨expires, token, -, -, rfl⟩ := principalOf_eq_ok_iff.mp hp
  obtain ⟨hlive, hactive⟩ := Tables.of_userByCredentials huser
  exact (Tables.backs_iff hnumbers).mpr
    ⟨user, Tables.mem_of_userByCredentials huser, rfl, hlive, hactive, rfl⟩

/-- After a login the user still backs the principal. -/
theorem Opens.backs_respond (hnumbers : s.tables.HasDistinctNumbers) (h : env.Opens s r p) :
    (env.respond s r).2.tables.Backs p := by
  refine Service.backs_respond hnumbers (h.backs hnumbers) fun hwithdraws => ?_
  cases hwithdraws with
  | deletes asked | changes asked => cases asked.symm.trans h.1

/-- The request logs in or out with the token. -/
def Touches (env : Service) (s : State) (r : Request) (token : String) : Prop :=
  env.Closes s r token ∨ ∃ p, env.Opens s r p ∧ p.token = token

/-- After every run from an empty store of sessions on users with different numbers: whoever is let in has
the session of a principal, as it was opened by the last login with the token, with no logout since.  At
that login the row of the principal's user was neither deleted nor inactive and had its role.  The row is
still there, and still backs the principal if no administrator has withdrawn anything since by deleting the
user, making the user inactive or giving the user another role.  No such request, nor any other change or
deletion of a user, ends a session. -/
theorem snapshot_of_run {start : State} {cacheAnswers : Bool} {settings : Settings} {now : WallTime}
    {session : SessionFields} (hstart : start.sessions = .start cacheAnswers)
    (hdistinct : start.tables.HasDistinctNumbers) (steps : List (Service × Request))
    (hnumbered : ∀ earlier, earlier <+: steps → (run start earlier).tables.IsNumbered)
    (hfound : (authenticate settings now r.bearer (run start steps).sessions).1 = .ok session) :
    (∃ before env login after p, steps = before ++ (env, login) :: after ∧
      env.Opens (run start before) login p ∧ r.bearer = some p.token ∧ session = p.fields ∧
      (run start before).tables.Backs p ∧
      (∃ u, (run start steps).tables.users.filter (·.id = p.userId) = [u]) ∧
      let opened := (env.respond (run start before) login).2
      Never (fun env s r => env.Touches s r p.token) opened after ∧
        (Never (fun env s r => env.Withdraws s r p) opened after → (run start steps).tables.Backs p)) ∧
    ∀ (env : Service) (write : Request) (id : String),
      write.action? = some (.updateUser id) ∨ write.action? = some (.deleteUser id) →
      env.now.micros ≤ now.micros →
      (authenticate settings now r.bearer (env.respond (run start steps) write).2.sessions).1 =
        .ok session := by
  refine ⟨?_, fun env write id hasked hnow => (authenticate_of_write hasked hnow _).trans hfound⟩
  obtain ⟨p, opened, ⟨before, env, login, after, rfl, hopens, -, -, hafter⟩, hbearer, rfl⟩ :=
    exists_isOpen_of_found hstart hnumbered hfound
  have hbefore := hasDistinctNumbers_run hdistinct before
  have hlogin : run start (before ++ [(env, login)]) = (env.respond (run start before) login).2 :=
    run_append_singleton ..
  have hsplit : ∀ rest, run start (before ++ (env, login) :: rest) =
      run (env.respond (run start before) login).2 rest := by
    intro rest
    rw [run_append]
    rfl
  refine ⟨before, env, login, after, p, rfl, hopens, hbearer, rfl, hopens.backs hbefore, ?_, ?_, ?_⟩
  · -- the row was there at the login, and no request takes a row away
    obtain ⟨user, huser, hid, -⟩ := hopens.exists_user
    refine Tables.exists_filter_number_eq (hasDistinctNumbers_run hdistinct _) ?_
    rw [run_append]
    refine run_induction _ ?_ fun _ _ _ _ hn hmoves => mem_ids_of_moves hn hmoves
    rw [hid]
    exact List.mem_map_of_mem huser
  · refine never_of_forall fun mid env' r' rest hrest htouches => ?_
    obtain ⟨hclose, hopen⟩ := hafter mid env' r' rest hrest
    rw [hsplit] at hclose hopen
    rcases htouches with hcloses | ⟨q, hq, htoken⟩
    · exact hclose hcloses
    · exact hopen q hq htoken
  · intro hkept
    rw [hsplit]
    exact backs_run (hlogin ▸ hasDistinctNumbers_run hdistinct _) (hopens.backs_respond hbefore) hkept

/-! ### An administrator who deletes the own user -/

/-- The numbers of one user are different. -/
theorem hasDistinctNumbers_signedOutAs (role : String) :
    (signedOutAs role).tables.HasDistinctNumbers :=
  List.nodup_singleton _

/-- The token of a login is accepted right after it. -/
theorem authenticate_signIn {role : String} (h : (atClock noon).Opens (signedOutAs role) signIn p)
    {expires : WallTime} (hexpires : noon.after (hoursSpan hourly.tokenTtlHours) = .ok expires)
    (hvalid : noon.unixSeconds ≤ expires.unixTimestamp) :
    (authenticate hourly noon (some p.token)
      (run (signedOutAs role) [(atClock noon, signIn)]).sessions).1 = .ok p.fields := by
  have hstart : (signedOutAs role).sessions = .start true := rfl
  rw [authenticate_run isPlainSecret_hourly hstart (isRegular_signIn h) now_le_of_mem_signIn (strip_token_signIn h).1]
  exact ⟨p, noon, expires, isOpen_signIn h, hexpires, by decide, hvalid, rfl⟩

/-- The principal of an administrator may change users. -/
theorem requireRole_fields (h : p.role = "ADMIN") :
    SessionFields.requireRole p.fields adminRoles = .ok () := by
  have hrole : SessionFields.field p.fields "role" = .str p.role := rfl
  unfold SessionFields.requireRole SessionFields.hasRole
  rw [hrole, h]
  decide

/-- An administrator whose session is accepted deletes the own user, if the row still backs the session. -/
theorem withdraws_removal (hid : p.userId = 1) (hrole : p.role = "ADMIN") (hbacks : s.tables.Backs p)
    (hfound : (authenticate env.settings env.now (removal token).bearer s.sessions).1 = .ok p.fields) :
    env.Withdraws s (removal token) p := by
  have hnumber : readUserId "1" = .ok p.userId := by
    rw [hid]
    rfl
  obtain ⟨user, huser⟩ := hbacks.exists_userById (by rw [hid]; decide)
  have hcarried := carryOut_deleteUser (action_removal token) (Prod.ext hfound rfl) (requireRole_fields hrole)
    hnumber huser
  exact .deletes (action_removal token) hnumber (status_of_ok (congrArg Prod.fst hcarried))

/-- A user who has logged in is let in, and as long as nothing else happens the row backs the
principal. -/
theorem snapshot_of_run_signIn : ∃ p,
    let s := run (signedOutAs "USER") [(atClock noon, signIn)]
    (authenticate hourly noon (signOut p.token).bearer s.sessions).1 = .ok p.fields ∧
      s.tables.Backs p := by
  have hexpires : noon.after (hoursSpan 1) = .ok ⟨63900003600000000, by decide⟩ :=
    WallTime.after_eq_ok_iff.mpr (by decide)
  obtain ⟨p, hp, -⟩ := exists_opens_signedOutAs "USER" hexpires
  have hbearer := bearer_signOut (strip_token_signIn hp).1 (strip_token_signIn hp).2
  have hfound := authenticate_signIn hp hexpires (by decide +kernel)
  rw [← hbearer] at hfound
  have hstart : (signedOutAs "USER").sessions = .start true := rfl
  obtain ⟨⟨before, env, login, after, q, hsteps, hopens, -, -, -, -, -, hkept⟩, -⟩ :=
    snapshot_of_run hstart (hasDistinctNumbers_signedOutAs "USER") [(atClock noon, signIn)]
      (isRegular_signIn hp).numbered hfound
  obtain ⟨rfl, hrest⟩ | ⟨-, hrest⟩ := List.append_eq_singleton_iff.mp hsteps.symm
  · cases hrest
    cases hopens.unique hp
    exact ⟨p, hfound, hkept trivial⟩
  · cases hrest

/-- An administrator who deletes the own user is let in as before, although the row of the user does not
back the principal any more. -/
theorem snapshot_outlives_removal : ∃ p,
    let s := run (signedOutAs "ADMIN") [(atClock noon, signIn), (atClock noon, removal p.token)]
    (authenticate hourly noon (removal p.token).bearer s.sessions).1 = .ok p.fields ∧
      ∃ u, s.tables.users.filter (·.id = p.userId) = [u] ∧ ¬ u.Backs p := by
  have hexpires : noon.after (hoursSpan 1) = .ok ⟨63900003600000000, by decide⟩ :=
    WallTime.after_eq_ok_iff.mpr (by decide)
  obtain ⟨p, hp, hid, hrole⟩ := exists_opens_signedOutAs "ADMIN" hexpires
  have hbearer : (removal p.token).bearer = some p.token :=
    bearer_signOut (strip_token_signIn hp).1 (strip_token_signIn hp).2
  have hfound := authenticate_signIn hp hexpires (by decide +kernel)
  rw [← hbearer] at hfound
  obtain ⟨s, hs⟩ : ∃ s, run (signedOutAs "ADMIN") [(atClock noon, signIn)] = s := ⟨_, rfl⟩
  have hdistinct : s.tables.HasDistinctNumbers :=
    hs ▸ hasDistinctNumbers_run (hasDistinctNumbers_signedOutAs "ADMIN") [(atClock noon, signIn)]
  have hlogin : s.tables.Backs p := by
    have hrun : run (signedOutAs "ADMIN") [(atClock noon, signIn)] =
        ((atClock noon).respond (signedOutAs "ADMIN") signIn).2 := run_append_singleton _ [] _ _
    rw [← hs, hrun]
    exact hp.backs_respond (hasDistinctNumbers_signedOutAs "ADMIN")
  rw [hs] at hfound
  have hwithdraws : (atClock noon).Withdraws s (removal p.token) p :=
    withdraws_removal hid hrole hlogin hfound
  have hsplit : run (signedOutAs "ADMIN") [(atClock noon, signIn), (atClock noon, removal p.token)] =
      ((atClock noon).respond s (removal p.token)).2 := by
    rw [← hs]
    exact run_append_singleton _ [(atClock noon, signIn)] _ _
  obtain ⟨user, huser, hnumber, -⟩ := (Tables.backs_iff hdistinct).mp hlogin
  have hmoves := moves_respond (atClock noon) s (removal p.token)
  obtain ⟨u, hrow⟩ := Tables.exists_filter_number_eq (writes_of_moves hdistinct hmoves).1
    (mem_ids_of_moves (List.mem_map_of_mem huser) hmoves)
  rw [hnumber] at hrow
  have hkept : (authenticate hourly noon (removal p.token).bearer
      ((atClock noon).respond s (removal p.token)).2.sessions).1 =
      (authenticate hourly noon (removal p.token).bearer s.sessions).1 :=
    authenticate_of_write (.inr (action_removal p.token)) (le_refl noon.micros) _
  refine ⟨p, ?_⟩
  dsimp only
  rw [hsplit]
  exact ⟨hkept.trans hfound, u, hrow, fun hbacks => hwithdraws.not_backs ⟨u, hrow, hbacks⟩⟩

end Backoffice.Web.Service
