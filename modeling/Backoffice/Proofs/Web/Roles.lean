import Mathlib
import Backoffice.Proofs.Web.Origins

/-!
# Which roles there are

The role of a row is one of the two that one can register with, or an administrator has given it to the user
in so many letters: the forms of administrators take any text for a role.  A session has the role that the
row of its user had at the login (`Service.roles_of_run`).
-/

namespace Backoffice.Web.Service

variable {env : Service} {s start : State} {r : Request} {p : Principal} {u : User} {key : String}
  {later : WallTime} {steps : List (Service × Request)}

/-! ### Roles of users -/

/-- The request is carried out and gives a role to the user of a number, for whom it adds a row or whose row
it changes. -/
inductive GivesRole (env : Service) (s : State) (r : Request) (n : ℤ) (role : String) : Prop
  | creates {form : NewUserForm} (asked : r.action? = some .createUser)
      (read : readBody NewUserForm.read r = .ok form) (given : form.role = role)
      (number : s.tables.nextUserId = n) (done : (env.respond s r).1.status = 201)
  | changes {id : String} {form : UserEditForm} (asked : r.action? = some (.updateUser id))
      (number : readUserId id = .ok n) (read : readBody UserEditForm.read r = .ok form)
      (given : form.role = some role) (done : (env.respond s r).1.status = 200)

/-- A role is given by the form of an administrator. -/
theorem GivesRole.action? {n : ℤ} {role : String} (h : env.GivesRole s r n role) :
    r.action? = some .createUser ∨ ∃ id, r.action? = some (.updateUser id) := by
  cases h with
  | creates asked => exact .inl asked
  | changes asked => exact .inr ⟨_, asked⟩

/-- The role of a user is one that one can register with, or an administrator has given it to the user. -/
theorem role_of_run (hempty : start.tables.users = []) (hu : u ∈ (run start steps).tables.users) :
    u.role ∈ Form.knownRoles ∨ Sometime (fun env s r => env.GivesRole s r u.id u.role) start steps := by
  induction steps using List.reverseRecOn generalizing u with
  | nil =>
    change u ∈ start.tables.users at hu
    rw [hempty] at hu
    cases hu
  | append_singleton steps step ih =>
    obtain ⟨env, r⟩ := step
    -- the row of before may say another address, but the number and the role are the same
    have hkept : ∀ old ∈ (run start steps).tables.users, u.id = old.id → u.role = old.role →
        u.role ∈ Form.knownRoles ∨
          Sometime (fun env s r => env.GivesRole s r u.id u.role) start (steps ++ [(env, r)]) := by
      intro old hold hid hrole
      rw [hid, hrole]
      exact (ih hold).imp_right fun hgiven => hgiven.append _
    rw [run_append_singleton] at hu
    cases origin_of_mem hu with
    | kept mem id email role => exact hkept _ mem id role
    | registered asked read done id email role =>
      obtain ⟨fields, -, hfields⟩ := exists_fields_of_readBody read
      rw [role]
      exact .inl (RegisterForm.role_of_read hfields).2
    | created asked read done id email role =>
      exact .inr (sometime_of_last (.creates asked read role.symm id.symm done))
    | @changed id form old asked number read done mem same email role =>
      cases hgiven : form.role with
      | none =>
        rw [hgiven] at role
        exact hkept old mem same role
      | some given =>
        rw [hgiven] at role
        have hsame : form.role = some u.role := hgiven.trans (congrArg some role.symm)
        exact .inr (sometime_of_last (.changes asked number read hsame done))

/-! ### Roles of sessions -/

/-- An object in the store after a run from an empty store is the session that a login has opened. -/
theorem exists_opens_of_peek {cacheAnswers : Bool} {fields : List (String × Json)}
    (hstart : start.sessions = .start cacheAnswers)
    (hnumbered : ∀ earlier, earlier <+: steps → (run start earlier).tables.IsNumbered)
    (hpeek : (run start steps).sessions.peek later key = some (.obj fields)) :
    ∃ before env r after p, steps = before ++ (env, r) :: after ∧ env.Opens (run start before) r p ∧
      fields = p.fields := by
  induction steps using List.reverseRecOn with
  | nil =>
    change start.sessions.peek later key = _ at hpeek
    rw [hstart, Session.Store.peek_start] at hpeek
    cases hpeek
  | append_singleton steps step ih =>
    obtain ⟨env, r⟩ := step
    have hbefore : (run start steps).sessions.peek later key = some (.obj fields) →
        ∃ before env' r' after p, steps ++ [(env, r)] = before ++ (env', r') :: after ∧
          env'.Opens (run start before) r' p ∧ fields = p.fields := by
      intro hpeek
      obtain ⟨before, env', r', after, p, rfl, hopens, hfields⟩ :=
        ih (fun earlier hearlier => hnumbered earlier (hearlier.trans (List.prefix_append _ _))) hpeek
      exact ⟨before, env', r', after ++ [(env, r)], p, by simp, hopens, hfields⟩
    rw [run_append_singleton] at hpeek
    by_cases hopens : ∃ p, env.Opens (run start steps) r p
    · obtain ⟨p, hp⟩ := hopens
      obtain ⟨_, sessions, hdone, hlogin⟩ := carryOut_of_opens hp
      obtain ⟨hexact, hint⟩ :=
        p.isExact_of_fitsWord (hp.fitsWord_userId (hnumbered steps (List.prefix_append _ _)))
      rw [respond_state, hdone] at hpeek
      rcases Session.Store.of_peek_login_obj hlogin hexact hint hpeek with hfields | hpeek
      · exact ⟨steps, env, r, [], p, rfl, hp, hfields⟩
      · exact hbefore hpeek
    · rw [not_exists] at hopens
      exact hbefore (peek_of_peek_respond hopens hpeek).2

/-! ### An administrator who gives a role -/

/-- Somebody registers as an administrator, with a blank for a name. -/
def enlistment : Request :=
  ⟨"POST", "/api/auth/register", "", [], some (.obj [("email", .str "a@b.c"), ("password", .str "secret"),
    ("name", .str " "), ("role", .str "ADMIN")])⟩

/-- The bearer of a token adds a user with a role of which nothing is known. -/
def appointment (token : String) : Request :=
  ⟨"POST", "/api/users", "", [("Authorization", "Bearer " ++ token)],
    some (.obj [("email", .str "b@b.c"), ("password", .str "secret"), ("role", .str "root")])⟩

/-- The administrator has registered and logs in. -/
def enlisted : List (Service × Request) :=
  [(atClock noon, enlistment), (atClock noon, signIn)]

/-- The registration is read as one of an administrator. -/
theorem read_enlistment : readBody RegisterForm.read enlistment =
    .ok ⟨"a@b.c", "secret", some " ", none, "ADMIN"⟩ := by
  cbv

/-- Who has registered is the only user, and can log in. -/
theorem exists_opens_enlisted : ∃ u p,
    (run untouched [(atClock noon, enlistment)]).tables.users = [u] ∧
      u.IsNew 1 "a@b.c" "ADMIN" (some " ") none (some "a@b.c") ∧
      (atClock noon).Opens (run untouched [(atClock noon, enlistment)]) signIn p := by
  have hasked : enlistment.action? = some .register := by
    decide
  have hlogin : readBody LoginForm.read signIn = .ok ⟨"a@b.c", "secret"⟩ := rfl
  have hk : untouched.tables.Keyed := Tables.keyed_of_empty rfl
  have hshort : (Password.salted "secret" (atClock noon).salts.user).length ≤ Password.maxLength := by
    decide
  have hsalt : (atClock noon).salts.digest.length ≤ PasswordDigest.maxSaltSize := by
    decide
  have hnobody : ∀ v ∈ untouched.tables.users, v.email ≠ normalizeEmail (some "a@b.c") :=
    fun v hv => nomatch hv
  obtain ⟨u, hdone, -⟩ := @Tables.exists_register untouched.tables (atClock noon).now (atClock noon).salts
    ⟨"a@b.c", "secret", some " ", none, "ADMIN"⟩ hk hnobody hshort
  have hnext : ((atClock noon).respond untouched enlistment).2 = _ :=
    (respond_of_register hasked read_enlistment hdone).2
  have hnonblank : Text.strip "a@b.c" ≠ "" := by
    decide
  obtain ⟨_, -, -, -, -, -, -, -, hknown⟩ := exists_userByCredentials_of_registration hk hasked
    read_enlistment hnonblank hnobody hshort hsalt
  obtain ⟨v, hv, -⟩ := hknown [] trivial "a@b.c" rfl
  have hcan : (atClock noon).CanOpen ((atClock noon).respond untouched enlistment).2.sessions :=
    canOpen_atClock (by decide) _
  obtain ⟨p, hp, -⟩ := hcan.exists_opens (by decide) hlogin hv
  refine ⟨u, p, ?_, (Tables.of_register hdone).2, hp⟩
  rw [run_singleton, hnext]
  rfl

/-- The request of the administrator is read as it is. -/
theorem read_appointment (token : String) : readBody NewUserForm.read (appointment token) =
    .ok ⟨"b@b.c", "secret", none, none, none, "root", true, none⟩ := by
  cbv

/-- The request is asked for as one that adds a user. -/
theorem action_appointment (token : String) : (appointment token).action? = some .createUser := by
  have hsame : (appointment token).action? = (appointment "").action? := rfl
  rw [hsame]
  decide

/-- What holds before and after each of the two requests holds all along. -/
theorem forall_prefix_enlisted {P : State → Prop} (hstart : P untouched)
    (hfirst : P (run untouched [(atClock noon, enlistment)])) (hsecond : P (run untouched enlisted)) :
    ∀ earlier, earlier <+: enlisted → P (run untouched earlier) := by
  have henlisted : enlisted = ([] ++ [(atClock noon, enlistment)]) ++ [(atClock noon, signIn)] := rfl
  intro earlier hearlier
  rw [henlisted, List.prefix_concat_iff, List.prefix_concat_iff, List.prefix_nil] at hearlier
  rcases hearlier with rfl | rfl | rfl
  · exact hsecond
  · exact hfirst
  · exact hstart

/-- The login of the administrator is the last of the two requests. -/
theorem run_enlisted : run untouched enlisted =
    ((atClock noon).respond (run untouched [(atClock noon, enlistment)]) signIn).2 :=
  run_append_singleton untouched [(atClock noon, enlistment)] _ _

/-- All along there is no other address than that of the administrator. -/
theorem emails_enlisted : ∀ earlier, earlier <+: enlisted →
    ∀ u ∈ (run untouched earlier).tables.users, u.email = "a@b.c" := by
  obtain ⟨u, p, husers, hnew, hp⟩ := exists_opens_enlisted
  have hfirst : ∀ v ∈ (run untouched [(atClock noon, enlistment)]).tables.users, v.email = "a@b.c" := by
    intro v hv
    rw [husers, List.mem_singleton] at hv
    rw [hv, hnew.email]
    exact normalizeEmail_member
  refine forall_prefix_enlisted (P := fun s => ∀ u ∈ s.tables.users, u.email = "a@b.c")
    (fun v hv => nomatch hv) hfirst fun v hv => ?_
  rw [run_enlisted] at hv
  obtain ⟨old, hold, -, hemail⟩ := hp.exists_old hv
  exact hemail.trans (hfirst old hold)

/-- All along the numbers of users are small. -/
theorem isNumbered_enlisted : ∀ earlier, earlier <+: enlisted →
    (run untouched earlier).tables.IsNumbered := by
  obtain ⟨u, p, husers, hnew, hp⟩ := exists_opens_enlisted
  have hfirst : (run untouched [(atClock noon, enlistment)]).tables.IsNumbered := by
    intro v hv
    rw [husers, List.mem_singleton] at hv
    rw [hv, hnew.id]
    decide
  refine forall_prefix_enlisted (P := fun s => s.tables.IsNumbered) (fun v hv => nomatch hv) hfirst ?_
  rw [run_enlisted]
  exact isNumbered_of_opens hp hfirst

/-- The administrator has the name of a blank, and is let in after the login. -/
theorem exists_session_enlisted : ∃ p : Principal, p.username = " " ∧ p.role = "ADMIN" ∧
      (authenticate hourly noon (appointment p.token).bearer (run untouched enlisted).sessions).1 =
        .ok p.fields := by
  obtain ⟨u, p, husers, hnew, hp⟩ := exists_opens_enlisted
  obtain ⟨u', hu', hid, -, husername, hrole⟩ := hp.exists_row
  rw [husers, List.mem_singleton] at hu'
  subst hu'
  have hfull : u'.fullName = " " := by
    unfold User.fullName
    rw [hnew.name, hnew.surname]
    decide
  refine ⟨p, ?_, hrole.trans hnew.role, ?_⟩
  · rw [husername, User.displayName, hfull]
    exact if_neg (by decide)
  · have hbearer : (appointment p.token).bearer = some p.token :=
      bearer_signOut hp.token_form.2.1 hp.token_form.2.2
    have hnumber : fitsWord p.userId = true := by
      rw [hid, hnew.id]
      decide
    have hlasting : 0 < (atClock noon).settings.tokenTtlHours := by
      change 0 < hourly.tokenTtlHours
      decide
    have hfound := authenticate_of_opens hp isPlainSecret_hourly hnumber hlasting
    rw [hbearer, run_enlisted]
    exact hfound

/-- The administrator adds the other user, with the role and in the own name. -/
theorem exists_appointment : ∃ (p : Principal) (row : User),
    let s := run untouched enlisted
    p.username = " " ∧ ((atClock noon).respond s (appointment p.token)).1.status = 201 ∧
      ((atClock noon).respond s (appointment p.token)).2.tables.users = s.tables.users ++ [row] ∧
      row.IsNew s.tables.nextUserId "b@b.c" "root" none none (SessionFields.actorLabel p.fields) := by
  obtain ⟨p, hname, hadmin, hfound⟩ := exists_session_enlisted
  have hemails := emails_enlisted enlisted List.prefix_rfl
  obtain ⟨s, hs⟩ : ∃ s, run untouched enlisted = s := ⟨_, rfl⟩
  rw [hs] at hemails hfound
  have hnobody : ∀ v ∈ s.tables.users, v.email ≠ normalizeEmail (some "b@b.c") := by
    intro v hv
    rw [hemails v hv]
    decide
  have hshort : (Password.salted "secret" (atClock noon).salts.user).length ≤ Password.maxLength := by
    decide
  have hstatus : ∀ n ∈ (none : Option ℤ), fitsWord n = true := fun n hn => nomatch hn
  obtain ⟨row, hadd⟩ := Tables.exists_addUser (atClock noon).now (atClock noon).salts
    (SessionFields.actorLabel p.fields) ⟨"b@b.c", "secret", none, none, none, "root", true, none⟩
    hnobody hstatus hshort
  have hcarried : (atClock noon).carryOut s (appointment p.token) = _ := carryOut_createUser
    (action_appointment p.token) (Prod.ext hfound rfl) (requireRole_fields hadmin)
    (read_appointment p.token) hadd
  refine ⟨p, row, ?_⟩
  rw [hs]
  refine ⟨hname, status_of_ok (congrArg Prod.fst hcarried), ?_, (Tables.of_addUser hadd).2⟩
  rw [respond_state, hcarried]

/-! ### The roles of users and sessions -/

/-- After every run from an empty table of users and an empty store of sessions, the role of every user, and
of every session in the store, is one that one can register with, or an administrator has given it to the
user by a request that was answered as carried out. -/
theorem roles_of_run {cacheAnswers : Bool} (hempty : start.tables.users = [])
    (hstart : start.sessions = .start cacheAnswers) (steps : List (Service × Request))
    (hnumbered : ∀ earlier, earlier <+: steps → (run start earlier).tables.IsNumbered) :
    (∀ u ∈ (run start steps).tables.users, u.role ∈ Form.knownRoles ∨
      Sometime (fun env s r => env.GivesRole s r u.id u.role) start steps) ∧
    ∀ later key fields, (run start steps).sessions.peek later key = some (.obj fields) →
      ∃ p : Principal, fields = p.fields ∧ (p.role ∈ Form.knownRoles ∨
        Sometime (fun env s r => env.GivesRole s r p.userId p.role) start steps) := by
  refine ⟨fun u hu => role_of_run hempty hu, fun later key fields hpeek => ?_⟩
  obtain ⟨before, env, r, after, p, rfl, hopens, hfields⟩ := exists_opens_of_peek hstart hnumbered hpeek
  obtain ⟨u, hu, hid, -, -, hrole⟩ := hopens.exists_row
  refine ⟨p, hfields, ?_⟩
  rw [hid, hrole]
  exact (role_of_run hempty hu).imp_right fun hgiven => hgiven.append _

/-- There is a user then with a role that is neither of the two. -/
theorem role_notMem_of_appointment : ∃ p : Principal,
    ∃ u ∈ (run untouched (enlisted ++ [(atClock noon, appointment p.token)])).tables.users,
      u.role ∉ Form.knownRoles := by
  obtain ⟨p, row, -, -, hrows, hnew⟩ := exists_appointment
  refine ⟨p, row, ?_, ?_⟩
  · rw [run_append_singleton, hrows]
    exact List.mem_append_right _ (List.mem_singleton_self row)
  · rw [hnew.role]
    decide

/-- As long as no administrator has given a role, every role is one that one can register with, also that of
the session of the administrator. -/
theorem roles_of_run_enlisted :
    (∀ u ∈ (run untouched enlisted).tables.users, u.role ∈ Form.knownRoles) ∧
      ∃ (key : String) (p : Principal),
        (run untouched enlisted).sessions.peek noon key = some (.obj p.fields) ∧
          p.role ∈ Form.knownRoles := by
  have hnever : ∀ {n role}, ¬ Sometime (fun env s r => env.GivesRole s r n role) untouched enlisted := by
    rintro n role ⟨before, env, r, after, hsplit, hgives⟩
    have hmem : (env, r) ∈ enlisted := by
      rw [hsplit]
      exact List.mem_append_right before List.mem_cons_self
    have hasked : r.action? = some .register ∨ r.action? = some .login := by
      simp only [enlisted, List.mem_cons, Prod.mk.injEq, List.not_mem_nil, or_false] at hmem
      rcases hmem with ⟨-, rfl⟩ | ⟨-, rfl⟩
      · exact .inl (by decide)
      · exact .inr (by decide)
    rcases hgives.action? with hgiven | ⟨id, hgiven⟩ <;> rcases hasked with hasked | hasked <;>
      cases hgiven.symm.trans hasked
  have hempty : untouched.tables.users = [] := rfl
  have hstart : untouched.sessions = .start false := rfl
  obtain ⟨hrows, hsessions⟩ := roles_of_run hempty hstart enlisted isNumbered_enlisted
  obtain ⟨p, -, -, hfound⟩ := exists_session_enlisted
  obtain ⟨t, -, -, hprincipal⟩ := authenticate_eq_ok_iff.mp hfound
  have hpeek := (Session.Store.principal_eq_ok_iff.mp hprincipal).2
  obtain ⟨q, hfields, hrole⟩ := hsessions noon _ _ hpeek
  rw [hfields] at hpeek
  exact ⟨fun u hu => (hrows u hu).resolve_right hnever, _, q, hpeek, hrole.resolve_right hnever⟩

end Backoffice.Web.Service
