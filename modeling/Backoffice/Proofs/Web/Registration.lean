import Mathlib
import Backoffice.Proofs.Web.Accounts

/-!
# Registering and logging in

Who has registered is there with an account, and can log in with any form of the address and with the
password as long as no administrator has changed or deleted the user: `Service.login_of_registration`.  It
takes that the service can open sessions at all; there are settings under which it cannot, or under which
its own tokens are refused (`Service.login_fails_of_settings`).
-/

namespace Backoffice

namespace RegisterForm

/-- The role that the fields of a registration ask for: without one, or with an empty one, that of a plain
user. -/
def askedRole (fields : List (String × Json)) : String :=
  match fields.lookup "role" with
  | some (.str role) => if role = "" then "USER" else role
  | _ => "USER"

/-- A role is read from a text, whose capitals name one that one can register with. -/
theorem of_asRole {v : Json} {role : String} (h : Form.asRole v = .ok role) : ∃ s, v = .str s ∧
    role = Text.capital (Text.strip (if s = "" then "USER" else s)) ∧ role ∈ Form.knownRoles := by
  unfold Form.asRole at h
  obtain ⟨s, hs, hrole⟩ := bind_eq_ok_iff.mp h
  cases v with
  | str text =>
    cases hs
    generalize hcapital : Text.capital (Text.strip (if s = "" then "USER" else s)) = capital at hrole
    dsimp only at hrole
    split_ifs at hrole with hknown
    cases hrole
    exact ⟨s, rfl, hcapital.symm, hknown⟩
  | _ => cases hs

/-- The role of a registration is the one that is asked for, without blanks at its ends and in capitals,
and it is one that one can register with. -/
theorem role_of_read {fields : List (String × Json)} {form : RegisterForm} (h : read fields = .ok form) :
    form.role = Text.capital (Text.strip (askedRole fields)) ∧ form.role ∈ Form.knownRoles := by
  unfold read at h
  simp only [Form.Checked.seq_eq_ok_iff, Form.Checked.map_eq_ok_iff] at h
  obtain ⟨_, role, ⟨_, _, ⟨_, _, ⟨_, _, ⟨_, -, rfl⟩, -, rfl⟩, -, rfl⟩, -, rfl⟩, hrole, rfl⟩ := h
  rw [Form.find_singleton] at hrole
  unfold askedRole
  cases hlookup : fields.lookup "role" with
  | none =>
    rw [hlookup] at hrole
    cases hrole
    change "USER" = Text.capital (Text.strip "USER") ∧ "USER" ∈ Form.knownRoles
    decide +kernel
  | some v =>
    rw [hlookup, Form.Slot.default_eq_ok_iff] at hrole
    obtain ⟨s, rfl, hcapital, hknown⟩ := of_asRole hrole
    exact ⟨hcapital, hknown⟩

end RegisterForm

/-- An address that is not blank has a normal form that is not empty. -/
theorem normalizeEmail_ne_empty {email : String} (h : Text.strip email ≠ "") :
    normalizeEmail (some email) ≠ "" := by
  intro hempty
  have hlowered : Text.lower (Text.strip email) = "" := hempty
  unfold Text.lower at hlowered
  rw [← String.toList_inj, String.toList_ofList] at hlowered
  cases hchars : (Text.strip email).toList with
  | nil => exact h (String.toList_inj.mp hchars)
  | cons c cs =>
    rw [hchars] at hlowered
    exact Text.lowerBetween_ne_nil _ _ _ (List.append_eq_nil_iff.mp hlowered).1

namespace Web.Service

variable {env : Service} {s : State} {r : Request} {u : User} {steps : List (Service × Request)}

/-! ### Registering -/

/-- A registration that adds a user is answered so, and changes nothing but the table of users. -/
theorem respond_of_register {form : RegisterForm} {tables : Tables} (hasked : r.action? = some .register)
    (hread : readBody RegisterForm.read r = .ok form)
    (hdone : s.tables.register env.now env.salts form = .ok (u, tables)) :
    (env.respond s r).1.status = 201 ∧ (env.respond s r).2 = { s with tables } := by
  have hcarried : env.carryOut s r = settle s (env.register s r) := carryOut_of_action hasked
  rw [register_eq_ok_iff.mpr ⟨form, u, tables, hread, hdone, rfl, rfl⟩] at hcarried
  refine ⟨status_of_ok (congrArg Prod.fst hcarried), ?_⟩
  rw [respond_state, hcarried]
  rfl

/-- A body that is read as a registration is an object whose fields are. -/
theorem exists_fields_of_readBody {α : Type} {read : List (String × Json) → Form.Checked α} {a : α}
    (h : readBody read r = .ok a) : ∃ fields, r.body = some (.obj fields) ∧ read fields = .ok a := by
  unfold readBody at h
  cases hbody : r.body with
  | none =>
    rw [hbody] at h
    cases h
  | some v =>
    rw [hbody] at h
    cases v with
    | obj fields =>
      refine ⟨fields, rfl, ?_⟩
      dsimp only at h
      split_ifs at h
      cases hread : read fields with
      | ok a' =>
        rw [hread] at h
        exact h
      | failed errors =>
        rw [hread] at h
        cases h
    | _ => cases h

/-- Over a run that does not rewrite the row, the user of a registration is known by any form of the
address and by the password. -/
theorem exists_userByCredentials_of_registration {form : RegisterForm} (hk : s.tables.Keyed)
    (hasked : r.action? = some .register) (hread : readBody RegisterForm.read r = .ok form)
    (hnonblank : Text.strip form.email ≠ "")
    (hnew : ∀ v ∈ s.tables.users, v.email ≠ normalizeEmail (some form.email))
    (hshort : (Password.salted form.password env.salts.user).length ≤ Password.maxLength)
    (hsalt : env.salts.digest.length ≤ PasswordDigest.maxSaltSize) :
    ∃ user, (env.respond s r).1.status = 201 ∧
      (env.respond s r).2 = { s with tables := { s.tables with users := s.tables.users ++ [user] } } ∧
      user.id = s.tables.nextUserId ∧ user.email = normalizeEmail (some form.email) ∧
      user.isLive = true ∧ user.isActive = true ∧ user.role = form.role ∧
      ∀ after, Never (fun env s r => env.Rewrites s r user.id) (env.respond s r).2 after →
        ∀ email, normalizeEmail (some email) = normalizeEmail (some form.email) →
          ∃ v, (run (env.respond s r).2 after).tables.userByCredentials email form.password = .ok v ∧
            v.account = user.account := by
  obtain ⟨user, hdone, hid, hemail, hlive, hactive, hrole, hhash⟩ :=
    Tables.exists_register hk hnew hshort
  obtain ⟨hstatus, hnext⟩ := respond_of_register hasked hread hdone
  refine ⟨user, hstatus, hnext, hid, hemail, hlive, hactive, hrole, fun after hkept email hsame => ?_⟩
  have hk' : (env.respond s r).2.tables.Keyed := keyed_of_moves hk (moves_respond env s r)
  have haccount : (env.respond s r).2.tables.HasAccount user := by
    rw [hnext]
    exact ⟨user, List.mem_append_right _ (List.mem_singleton_self user), rfl⟩
  refine (hasAccount_run hk' haccount hkept).exists_userByCredentials (keyed_run hk' after) hlive hactive
    (hsame.trans hemail.symm) ?_ (Password.verify_hash hsalt hhash)
  rw [hemail]
  exact normalizeEmail_ne_empty hnonblank

/-! ### Logging in after a registration -/

/-- In every state that a run reaches from an empty table of users, a valid registration with a new address
that is not blank, and with a password that is not too long, is answered as created, whatever salts are
drawn.  It adds one row, of a live and active user with the normal form of the address and the role that is
asked for, in capitals.  After any further run that does not change or delete this row, whoever logs in with
an address of the same normal form and with the password is answered with the number of the row and with a
token, if the service can open sessions, and the token is accepted then, if the secret is a plain one. -/
theorem login_of_registration {start : State} (hempty : start.tables.users = [])
    (before : List (Service × Request)) {form : RegisterForm} (hasked : r.action? = some .register)
    (hread : readBody RegisterForm.read r = .ok form) (hnonblank : Text.strip form.email ≠ "")
    (hnew : ∀ v ∈ (run start before).tables.users, v.email ≠ normalizeEmail (some form.email))
    (hshort : (Password.salted form.password env.salts.user).length ≤ Password.maxLength)
    (hsalt : env.salts.digest.length ≤ PasswordDigest.maxSaltSize)
    (hstorable : fitsWord (run start before).tables.nextUserId = true) :
    let s := run start before
    let next := (env.respond s r).2
    ∃ user, (env.respond s r).1.status = 201 ∧
      next = { s with tables := { s.tables with users := s.tables.users ++ [user] } } ∧
      user.isLive = true ∧ user.isActive = true ∧ user.email = normalizeEmail (some form.email) ∧
      (∃ fields, r.body = some (.obj fields) ∧
        user.role = Text.capital (Text.strip (RegisterForm.askedRole fields))) ∧
      ∀ after, Never (fun env s r => env.Rewrites s r user.id) next after →
        ∀ (env' : Service) (login : Request) (form' : LoginForm), login.action? = some .login →
          readBody LoginForm.read login = .ok form' →
          normalizeEmail (some form'.email) = normalizeEmail (some form.email) →
          form'.password = form.password → env'.CanOpen (run next after).sessions →
          (env'.respond (run next after) login).1.status = 200 ∧ ∃ p : Principal,
            (env'.respond (run next after) login).1.body = .json p.view ∧ p.userId = user.id ∧
            (Token.IsPlainSecret env'.settings.tokenSecret →
              (authenticate env'.settings env'.now (some p.token)
                (env'.respond (run next after) login).2.sessions).1 = .ok p.fields) := by
  intro s next
  have hk : s.tables.Keyed := keyed_run (Tables.keyed_of_empty hempty) before
  obtain ⟨user, hstatus, hnext, hid, hemail, hlive, hactive, hrole, hknown⟩ :=
    exists_userByCredentials_of_registration hk hasked hread hnonblank hnew hshort hsalt
  obtain ⟨fields, hbody, hfields⟩ := exists_fields_of_readBody hread
  have hcapital := (RegisterForm.role_of_read hfields).1
  refine ⟨user, hstatus, hnext, hlive, hactive, hemail, ⟨fields, hbody, hrole.trans hcapital⟩, ?_⟩
  intro after hkept env' login form' hlogin hread' hsame hpassword hcan
  obtain ⟨v, hv, haccount⟩ := hknown after hkept form'.email hsame
  rw [← hpassword] at hv
  obtain ⟨p, hp, hnumber, -⟩ := hcan.exists_opens hlogin hread' hv
  obtain ⟨hsameId, -⟩ := User.of_account_eq haccount
  have huserId : p.userId = user.id := hnumber.trans hsameId
  have hfits : fitsWord p.userId = true := by
    rw [huserId, hid]
    exact hstorable
  obtain ⟨hdone, hview⟩ := respond_of_opens hp
  exact ⟨hdone, p, hview, huserId, fun hplain => authenticate_of_opens hp hplain hfits hcan.lasting⟩

/-- The state before anybody has registered, with the sessions in memory. -/
def untouched : State :=
  ⟨⟨[], [], [], []⟩, .start false⟩

/-- Who registers with blanks and capitals in the address can log in without them. -/
theorem login_of_registration_otherForm :
    let next := ((atClock noon).respond untouched (registration " A@B.c ")).2
    ((atClock noon).respond untouched (registration " A@B.c ")).1.status = 201 ∧
      ((atClock noon).respond next signIn).1.status = 200 ∧ ∃ p : Principal,
        (authenticate hourly noon (some p.token) ((atClock noon).respond next signIn).2.sessions).1 =
          .ok p.fields := by
  intro next
  have hread : readBody RegisterForm.read (registration " A@B.c ") =
      .ok ⟨" A@B.c ", "secret", none, none, "USER"⟩ := rfl
  have hlogin : readBody LoginForm.read signIn = .ok ⟨"a@b.c", "secret"⟩ := rfl
  have hempty : untouched.tables.users = [] := rfl
  have hshort : (Password.salted "secret" (atClock noon).salts.user).length ≤ Password.maxLength := by
    decide
  have hsalt : (atClock noon).salts.digest.length ≤ PasswordDigest.maxSaltSize := by
    decide
  obtain ⟨user, hstatus, -, -, -, -, -, hknown⟩ := login_of_registration hempty []
    (by decide) hread (by decide) (fun v hv => nomatch hv) hshort hsalt (by decide)
  have hcan : (atClock noon).CanOpen next.sessions := canOpen_atClock (by decide) _
  obtain ⟨hdone, p, -, -, haccepted⟩ := hknown [] trivial (atClock noon) signIn ⟨"a@b.c", "secret"⟩
    (by decide) hlogin (by decide) rfl hcan
  exact ⟨hstatus, hdone, p, haccepted isPlainSecret_hourly⟩

/-! ### Settings under which a login is of no use -/

/-- What has no answer of its own is answered as a failure of the service. -/
theorem status_of_answer?_eq_none (h : answer? (env.requestId r) (env.carryOut s r).1 = none) :
    (env.respond s r).1.status = 500 := by
  unfold respond
  simp only [h]

/-- A login that breaks off is answered as a failure of the service. -/
theorem status_of_failed_login {form : LoginForm} {f : Failure} (hasked : r.action? = some .login)
    (hread : readBody LoginForm.read r = .ok form)
    (hfailed : s.login env.settings env.now form = .error f)
    (hinternal : ∀ id, answer? id (.error (.failed f)) = none) : (env.respond s r).1.status = 500 := by
  have hcarried : env.carryOut s r = settle s (env.login s r) := carryOut_of_action hasked
  rw [login_of_error hread hfailed] at hcarried
  refine status_of_answer?_eq_none ?_
  rw [hcarried]
  exact hinternal _

/-- The service at noon under some settings. -/
def serviceUnder (settings : Settings) : Service :=
  { atClock noon with settings }

/-- The state after a registration under some settings. -/
def enrolled (settings : Settings) : State :=
  ((serviceUnder settings).respond untouched (registration "a@b.c")).2

/-- Whatever the settings are, the registration is answered as created, and then the user is known by the
credentials. -/
theorem exists_user_enrolled (settings : Settings) :
    ((serviceUnder settings).respond untouched (registration "a@b.c")).1.status = 201 ∧
      (enrolled settings).sessions = .start false ∧
      ∃ v, (enrolled settings).tables.userByCredentials "a@b.c" "secret" = .ok v := by
  have hread : readBody RegisterForm.read (registration "a@b.c") =
      .ok ⟨"a@b.c", "secret", none, none, "USER"⟩ := rfl
  have hshort : (Password.salted "secret" (serviceUnder settings).salts.user).length ≤
      Password.maxLength := by
    change (Password.salted "secret" "").length ≤ Password.maxLength
    decide
  have hsalt : (serviceUnder settings).salts.digest.length ≤ PasswordDigest.maxSaltSize := Nat.zero_le _
  obtain ⟨user, hstatus, hnext, -, -, -, -, -, hknown⟩ := exists_userByCredentials_of_registration
    (Tables.keyed_of_empty (t := untouched.tables) rfl) (by decide) hread (by decide)
    (fun v hv => nomatch hv) hshort hsalt
  obtain ⟨v, hv, -⟩ := hknown [] trivial "a@b.c" rfl
  exact ⟨hstatus, congrArg State.sessions hnext, v, hv⟩

/-- Under the settings somebody registers, and then fails to log in, although tokens are to live for an hour
at least. -/
def LocksOut (settings : Settings) : Prop :=
  0 < settings.tokenTtlHours ∧
    ((serviceUnder settings).respond untouched (registration "a@b.c")).1.status = 201 ∧
    ((serviceUnder settings).respond (enrolled settings) signIn).1.status = 500

/-- Where nobody gets a principal, or no session can be kept, users are locked out. -/
theorem locksOut_of_failure {settings : Settings} (hlasting : 0 < settings.tokenTtlHours)
    (hfails : ∀ v, ∃ f, (∀ id, answer? id (.error (.failed f)) = none) ∧
      (principalOf settings noon v = .error f ∨ ∃ p o, principalOf settings noon v = .ok p ∧
        (Session.Store.start false).login noon p settings.sessionTtlSeconds = .error o ∧
          f = .overflow o)) : LocksOut settings := by
  obtain ⟨hstatus, hsessions, v, hv⟩ := exists_user_enrolled settings
  refine ⟨hlasting, hstatus, ?_⟩
  generalize enrolled settings = s at hsessions hv ⊢
  obtain ⟨form, hread, huser⟩ := exists_form_of_signIn hv
  obtain ⟨f, hinternal, hfails⟩ := hfails v
  rw [← hsessions] at hfails
  exact status_of_failed_login (by decide) hread ((State.login_eq_error_iff huser).mpr hfails) hinternal

/-- A secret that is no key for signing locks users out. -/
theorem locksOut_sshKey : LocksOut { hourly with tokenSecret := "ssh-rsa AAAA" } := by
  have hexpires : noon.after (hoursSpan 1) = .ok ⟨63900003600000000, by decide⟩ :=
    WallTime.after_eq_ok_iff.mpr (by decide)
  have hkey : ¬ Token.isPlainKey "ssh-rsa AAAA" = true := by
    decide
  refine locksOut_of_failure (by decide) fun v => ⟨.token .signingKey, fun id => rfl, .inl ?_⟩
  refine principalOf_eq_error_iff.mpr (.inr ⟨_, hexpires, ?_⟩)
  unfold userToken Token.issue Token.sign
  rw [if_neg hkey]

/-- A life time of tokens that leads beyond the calendar locks users out. -/
theorem locksOut_longTokens : LocksOut { hourly with tokenTtlHours := 100000000 } := by
  have hbeyond : calendarMicros ≤ noon.micros + hoursSpan 100000000 := by
    decide
  obtain ⟨o, ho⟩ := WallTime.exists_after_eq_error hbeyond
  exact locksOut_of_failure (by decide) fun v =>
    ⟨.overflow o, fun id => rfl, .inl (principalOf_eq_error_iff.mpr (.inl ⟨o, ho, rfl⟩))⟩

/-- A life time of sessions that leads beyond the calendar locks users out of a store in memory. -/
theorem locksOut_longSessions : LocksOut { hourly with sessionTtlHours := 100000000 } := by
  have hkept : Session.keptSeconds
      (Settings.sessionTtlSeconds { hourly with sessionTtlHours := 100000000 }) = 360000000000 := by
    decide
  have hbeyond : calendarMicros ≤ noon.micros + secondsSpan 360000000000 := by
    decide
  obtain ⟨o, ho⟩ := WallTime.exists_after_eq_error hbeyond
  rw [← hkept] at ho
  have hexpires : noon.after (hoursSpan 1) = .ok ⟨63900003600000000, by decide⟩ :=
    WallTime.after_eq_ok_iff.mpr (by decide)
  have hplain : Token.IsPlainSecret (Settings.tokenSecret { hourly with sessionTtlHours := 100000000 }) :=
    isPlainSecret_hourly
  refine locksOut_of_failure (by decide) fun v => ⟨.overflow o, fun id => rfl, .inr ?_⟩
  obtain ⟨token, htoken⟩ := Token.exists_userToken hplain noon ⟨63900003600000000, by decide⟩ v
  exact ⟨_, o, principalOf_eq_ok_iff.mpr ⟨_, token, hexpires, htoken, rfl⟩,
    Session.Store.login_memory_eq_error ho _, rfl⟩

/-- Under the settings somebody registers and logs in, but no token at all is accepted then. -/
def Disowns (settings : Settings) : Prop :=
  0 < settings.tokenTtlHours ∧
    ((serviceUnder settings).respond untouched (registration "a@b.c")).1.status = 201 ∧
    ((serviceUnder settings).respond (enrolled settings) signIn).1.status = 200 ∧
    ∀ token session, (authenticate settings noon (some token)
      ((serviceUnder settings).respond (enrolled settings) signIn).2.sessions).1 ≠ .ok session

/-- A secret that stands for an empty list of keys signs tokens, but does not accept any. -/
theorem disowns_noKeys : Disowns { hourly with tokenSecret := "[]" } := by
  obtain ⟨hstatus, -, v, hv⟩ := exists_user_enrolled { hourly with tokenSecret := "[]" }
  refine ⟨by decide, hstatus, ?_, fun token session hsession => ?_⟩
  · generalize enrolled { hourly with tokenSecret := "[]" } = s at hv ⊢
    obtain ⟨form, hread, huser⟩ := exists_form_of_signIn hv
    have hcan : (serviceUnder { hourly with tokenSecret := "[]" }).CanOpen s.sessions := by
      have hours : (atClock noon).CanOpen s.sessions := canOpen_atClock (by decide) _
      exact { hours with signs := by decide }
    obtain ⟨p, hp, -⟩ := hcan.exists_opens (by decide) hread huser
    exact (respond_of_opens hp).1
  · obtain ⟨t, -, ⟨claims, haccept⟩, -⟩ := authenticate_eq_ok_iff.mp hsession
    exact Token.accept_ne_ok_of_keys (by decide) _ _ _ haccept

/-- With a life time of tokens of an hour or more, users are locked out by a secret that is no key for
signing and by life times of tokens or sessions that lead beyond the calendar, and their tokens are of no
use under a secret that stands for an empty list of keys. -/
theorem login_fails_of_settings :
    LocksOut { hourly with tokenSecret := "ssh-rsa AAAA" } ∧
      LocksOut { hourly with tokenTtlHours := 100000000 } ∧
      LocksOut { hourly with sessionTtlHours := 100000000 } ∧
      Disowns { hourly with tokenSecret := "[]" } :=
  ⟨locksOut_sshKey, locksOut_longTokens, locksOut_longSessions, disowns_noKeys⟩

end Web.Service

end Backoffice
