import Mathlib
import Backoffice.Proofs.Directory.Keys
import Backoffice.Proofs.Web.Moves

/-!
# E-mail addresses over runs of the service

Whatever is requested, users keep different and normalized e-mail addresses; so an address belongs to at
most one live user, and whoever submits an address that another user has is refused.
-/

namespace Backoffice

namespace Tables

/-- A draft without a number of its own is refused if its address is taken. -/
theorem createUser_of_taken {t : Tables} {now : WallTime} {actor : Option String} {draft : UserDraft}
    {password salt : String} (hid : draft.id = none)
    (hstatus : ∀ n ∈ draft.statusId, fitsWord n = true) (hpassword : draft.password = some password)
    (hsalt : draft.salt = some salt) (htaken : ∃ v ∈ t.users, v.email = normalizeEmail draft.email) :
    t.createUser now actor draft = .error (.refused .duplicateEmail) := by
  have hstorable : requireAllStorable (draft.id.toList ++ draft.statusId.toList) = .ok () := by
    unfold requireAllStorable
    rw [if_pos]
    rw [hid, Option.toList_none, List.nil_append, List.all_eq_true]
    exact fun n hn => hstatus n (Option.mem_toList.mp hn)
  obtain ⟨user, huser⟩ : ∃ user, draft.toUser t.nextUserId now actor = .ok user := by
    unfold UserDraft.toUser
    rw [hpassword, hsalt]
    exact ⟨_, rfl⟩
  obtain ⟨hemail, hnumber⟩ := normal_of_toUser huser
  have hunique : requireUnique t.users user = .error (.refused .duplicateEmail) :=
    requireUnique_of_taken (fun v hv => hnumber ▸ ne_nextUserId hv) (hemail ▸ htaken)
  unfold createUser
  rw [hstorable, hid, Option.getD_none, huser]
  simp only [bind, Except.bind]
  rw [hunique]

/-- A change of address is refused if another user has the address. -/
theorem updateUser_of_taken {t : Tables} {now : WallTime} {actor : Option String} {user : User}
    {form : UserEditForm} {email : String} (hemail : form.email = some email)
    (hstatus : ∀ n ∈ form.statusId.join, fitsWord n = true)
    (htaken : ∃ v ∈ t.users.filter (·.id ≠ user.id), v.email = normalizeEmail (some email)) :
    t.updateUser now actor user form.patch = .error (.refused .duplicateEmail) := by
  have hstorable :
      requireAllStorable (form.patch.id.join.toList ++ form.patch.statusId.join.toList) = .ok () := by
    unfold requireAllStorable
    rw [if_pos]
    change ([] ++ form.statusId.join.toList).all fitsWord = true
    rw [List.nil_append, List.all_eq_true]
    exact fun n hn => hstatus n (Option.mem_toList.mp hn)
  have hrequired : ∀ {α : Type} (o : Option α) (old : α),
      UserPatch.required (o.map some) old = .ok (o.getD old) := by
    intro α o old
    cases o <;> rfl
  obtain ⟨changed, hchanged, haddress, hnumber⟩ : ∃ changed,
      form.patch.applyTo user now actor = .ok changed ∧ changed.email = normalizeEmail (some email) ∧
        changed.id = user.id := by
    unfold UserPatch.applyTo UserEditForm.patch
    simp only [hrequired, hemail, Option.map_some]
    exact ⟨_, rfl, rfl, rfl⟩
  have hunique : requireUnique (t.users.filter (·.id ≠ user.id)) changed =
      .error (.refused .duplicateEmail) := by
    refine requireUnique_of_taken (fun v hv => ?_) (haddress ▸ htaken)
    rw [hnumber]
    exact of_decide_eq_true (List.mem_filter.mp hv).2
  unfold updateUser
  rw [hstorable]
  simp only [bind, Except.bind]
  rw [hchanged]
  simp only []
  rw [hunique]

/-- A registration is refused if its address is taken. -/
theorem register_of_taken {t : Tables} {now : WallTime} {salts : FreshSalts} {form : RegisterForm}
    {password : String} (hhash : Password.hash form.password salts.user salts.digest = .ok password)
    (htaken : ∃ v ∈ t.users, v.email = normalizeEmail (some form.email)) :
    t.register now salts form = .error (.refused .duplicateEmail) := by
  unfold register
  simp only []
  split
  · rfl
  · simp only [bind, Except.bind, hhash]
    exact createUser_of_taken rfl (by rintro n ⟨⟩) rfl rfl htaken

/-- A user that an administrator adds is refused if its address is taken. -/
theorem addUser_of_taken {t : Tables} {now : WallTime} {salts : FreshSalts} {actor : Option String}
    {form : NewUserForm} {password : String}
    (hhash : Password.hash form.password salts.user salts.digest = .ok password)
    (hstatus : ∀ n ∈ form.statusId, fitsWord n = true)
    (htaken : ∃ v ∈ t.users, v.email = normalizeEmail (some form.email)) :
    t.addUser now salts actor form = .error (.refused .duplicateEmail) := by
  unfold addUser
  simp only [bind, Except.bind, hhash]
  exact createUser_of_taken rfl hstatus rfl rfl htaken

end Tables

namespace Web.Service

/-- The request submits an e-mail address, and apart from it nothing is wrong with the request: it
registers, or adds or changes a user in the session of an administrator.  The others are those who must
not have the address: all users, or all but the one that is changed. -/
inductive Submits (env : Service) (s : State) (r : Request) : List User → String → Prop
  | registers {form : RegisterForm} {password : String} (asked : r.action? = some .register)
      (read : readBody RegisterForm.read r = .ok form)
      (hashed : Password.hash form.password env.salts.user env.salts.digest = .ok password) :
      Submits env s r s.tables.users form.email
  | creates {session : SessionFields} {sessions : Session.Store} {form : NewUserForm} {password : String}
      (asked : r.action? = some .createUser)
      (found : authenticate env.settings env.now r.bearer s.sessions = (.ok session, sessions))
      (admin : session.requireRole adminRoles = .ok ())
      (read : readBody NewUserForm.read r = .ok form)
      (hashed : Password.hash form.password env.salts.user env.salts.digest = .ok password)
      (status : ∀ n ∈ form.statusId, fitsWord n = true) : Submits env s r s.tables.users form.email
  | updates {id email : String} {n : Int} {session : SessionFields} {sessions : Session.Store}
      {form : UserEditForm} {user : User} (asked : r.action? = some (.updateUser id))
      (found : authenticate env.settings env.now r.bearer s.sessions = (.ok session, sessions))
      (admin : session.requireRole adminRoles = .ok ())
      (number : readUserId id = .ok n) (read : readBody UserEditForm.read r = .ok form)
      (known : s.tables.userById n = .ok user) (given : form.email = some email)
      (status : ∀ k ∈ form.statusId.join, fitsWord k = true) :
      Submits env s r (s.tables.users.filter (·.id ≠ user.id)) email

variable {env : Service} {s next : State} {r : Request}

/-- Every move keeps the users apart. -/
theorem keyed_of_moves (hk : s.tables.Keyed) (h : Moves env s r next) : next.tables.Keyed := by
  cases h with
  | stays => exact hk
  | looks => exact hk
  | registers asked read done => exact Tables.keyed_register hk done
  | logsIn asked read done =>
    unfold State.login at done
    simp only [bind_eq_ok_iff, pure_eq_ok_iff, Prod.mk.injEq] at done
    obtain ⟨user, huser, principal, -, sessions, -, -, rfl⟩ := done
    exact Tables.keyed_replaceUser_same hk (Tables.mem_of_userByCredentials huser) rfl rfl
  | logsOut asked found => exact hk
  | creates asked found permitted done => exact Tables.keyed_addUser hk done
  | updates asked found permitted known done =>
    exact Tables.keyed_updateUser hk (Tables.mem_of_userById known).1 done
  | deletes asked found permitted known =>
    exact Tables.keyed_replaceUser_same hk (Tables.mem_of_userById known).1 rfl rfl

/-- A submitted address that one of the others has is refused, and the tables stay as they are. -/
theorem carryOut_of_taken {others : List User} {email : String} (h : Submits env s r others email)
    (htaken : ∃ v ∈ others, v.email = normalizeEmail (some email)) :
    ∃ sessions, env.carryOut s r =
      (.error (.failed (.refused .duplicateEmail)), { s with sessions }) := by
  cases h with
  | registers asked read hashed =>
    refine ⟨s.sessions, ?_⟩
    rw [carryOut_of_action asked]
    change settle s (env.register s r) = _
    rw [register_of_error read (Tables.register_of_taken hashed htaken)]
    rfl
  | @creates session sessions form password asked found admin read hashed status =>
    refine ⟨sessions, ?_⟩
    rw [carryOut_of_action asked]
    change env.withSession s r (fun session s => env.createUser session s r) = _
    exact withSession_of_error found
      (createUser_of_error admin read (Tables.addUser_of_taken hashed status htaken))
  | @updates id email n session sessions form user asked found admin number read known given status =>
    refine ⟨sessions, ?_⟩
    rw [carryOut_of_action asked]
    change env.withSession s r (fun session s => env.updateUser session id s r) = _
    exact withSession_of_error found
      (updateUser_of_error admin number read known (Tables.updateUser_of_taken given status htaken))

/-- After every run from an empty table of users the stored addresses are different and normalized, an
address leads to the one live user that has its normal form stored, and a valid request that submits an
address whose normal form another user has stored is refused without a change of any table. -/
theorem addresses_of_run (hempty : s.tables.users = []) (steps : List (Service × Request)) :
    ((run s steps).tables.users.map (·.email)).Nodup ∧
      (∀ u ∈ (run s steps).tables.users, normalizeEmail (some u.email) = u.email) ∧
      (∀ email u, (run s steps).tables.userByEmail? email = some u ↔
        normalizeEmail email ≠ "" ∧ u ∈ (run s steps).tables.users ∧ u.isLive = true ∧
          u.email = normalizeEmail email) ∧
      ∀ env r others email, Submits env (run s steps) r others email →
        (∃ v ∈ others, v.email = normalizeEmail (some email)) →
        (env.respond (run s steps) r).1.status = 400 ∧
          (env.respond (run s steps) r).1.body =
            .json (.obj [("detail", .str "User with this email already exists")]) ∧
          (env.respond (run s steps) r).2.tables = (run s steps).tables := by
  have hstart : s.tables.Keyed := by
    refine ⟨?_, ?_⟩
    · rw [hempty]
      exact List.Pairwise.nil
    · rw [hempty]
      exact fun u hu => nomatch hu
  have hkeyed : (run s steps).tables.Keyed :=
    run_induction steps hstart fun env s r next hk hmove => keyed_of_moves hk hmove
  refine ⟨?_, hkeyed.normal, fun email u => hkeyed.userByEmail?_eq_some_iff, ?_⟩
  · exact List.pairwise_map.mpr (hkeyed.distinct.imp fun h => h.2)
  · intro env r others email hsubmits htaken
    obtain ⟨sessions, hrefused⟩ := carryOut_of_taken hsubmits htaken
    obtain ⟨hstatus, hbody, hnext⟩ := respond_of_refused hrefused
    refine ⟨hstatus, hbody, ?_⟩
    rw [hnext]

/-- A service in its standard settings at the beginning of the year 2024. -/
def atNewYear : Service :=
  ⟨Settings.standard "" "", [], "name", ⟨63839664000000000, by decide⟩, default, "", .byNumber⟩

/-- A registration with an address. -/
def registration (email : String) : Request :=
  ⟨"POST", "/api/auth/register", "", [], some (.obj [("email", .str email), ("password", .str "secret")])⟩

/-- After a registration the same address with other letters and blanks is refused. -/
theorem addresses_of_run_registration :
    let s := run ⟨⟨[], [], [], []⟩, .start false⟩ [(atNewYear, registration "a@b.c")]
    (atNewYear.respond s (registration " A@B.c ")).1.status = 400 ∧
      (atNewYear.respond s (registration " A@B.c ")).2.tables = s.tables := by
  intro s
  have hread : readBody RegisterForm.read (registration " A@B.c ") =
      .ok ⟨" A@B.c ", "secret", none, none, "USER"⟩ := rfl
  have hsubmits : Submits atNewYear s (registration " A@B.c ") s.tables.users " A@B.c " :=
    .registers (by decide +kernel) hread (if_neg (by decide))
  have htaken : ∃ v ∈ s.tables.users, v.email = normalizeEmail (some " A@B.c ") := by
    have hemails : s.tables.users.map (·.email) = [normalizeEmail (some " A@B.c ")] := by
      decide +kernel
    exact List.mem_map.mp (hemails ▸ List.mem_singleton_self _)
  obtain ⟨-, -, -, hrefused⟩ := addresses_of_run (s := ⟨⟨[], [], [], []⟩, .start false⟩) rfl
    [(atNewYear, registration "a@b.c")]
  obtain ⟨hstatus, -, htables⟩ := hrefused atNewYear (registration " A@B.c ") _ _ hsubmits htaken
  exact ⟨hstatus, htables⟩

end Web.Service

end Backoffice
