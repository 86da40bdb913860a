import Mathlib
import Backoffice.Proofs.Directory.EditedRows
import Backoffice.Proofs.Text.Numerals
import Backoffice.Proofs.Web.Secrecy

/-!
# Requests for single users

A request that shows, changes or deletes a user is answered for the live user of the number in its address,
and refused if there is no such user (`Service.singleUser_of_run`).  The number is read with up to 4300 digits,
but the table takes 64 bits: with a number beyond them the request fails.
-/

namespace Backoffice.Web.Service

variable {env : Service} {s : State} {r : Request} {u changed : User} {n : ℤ} {id : String}
  {session : SessionFields} {sessions : Session.Store}

/-! ### Numbers in addresses -/

/-- The decimal text of a number is read as the number, if it does not have too many digits. -/
theorem readUserId_decimal (n : ℤ) : readUserId (Text.decimal n) =
    if n.natAbs < 10 ^ Text.maxDigits then .ok n
    else .failed [⟨["path", "user_id"], .oversizedInt⟩] := by
  unfold readUserId Form.Slot.required
  simp only [Form.asInt, Form.textAsInt, Text.plainInt_decimal]
  split_ifs <;> rfl

/-- A user is looked for under the number of the address. -/
theorem findUser_eq (hnumber : readUserId id = .ok n) : findUser s id = orFail (s.tables.userById n) := by
  unfold findUser
  rw [hnumber]
  rfl

/-! ### Requests that are stopped -/

/-- A request whose address has no number is refused for its errors, and changes no table. -/
theorem respond_of_unreadable {errors : List Form.FieldError} (hasks : AsksFor env s r id)
    (hunread : readUserId id = .failed errors) :
    (env.respond s r).1.status = 422 ∧ (env.respond s r).2.tables = s.tables := by
  have hstop : findUser s id = .error (.unprocessable errors) := by
    unfold findUser
    rw [hunread]
    rfl
  obtain ⟨sessions, hcarried⟩ := carryOut_of_asksFor hasks hstop
  unfold respond
  rw [hcarried]
  exact ⟨rfl, rfl⟩

/-- A request for a number that cannot be stored fails without an answer of its own, and changes no
table. -/
theorem respond_of_unstorable (hasks : AsksFor env s r id) (hnumber : readUserId id = .ok n)
    (hunstorable : fitsWord n = false) : (env.respond s r).1.status = 500 ∧
      (env.respond s r).1.body = .text "Internal Server Error" ∧
      (env.respond s r).2.tables = s.tables := by
  have hstop : findUser s id = .error (.failed (.overflow .parameter)) := by
    rw [findUser_eq hnumber, Tables.userById_of_unstorable hunstorable]
    rfl
  obtain ⟨sessions, hcarried⟩ := carryOut_of_asksFor hasks hstop
  unfold respond
  rw [hcarried]
  exact ⟨rfl, rfl, rfl⟩

/-- A request for a number that no live user has is refused, and changes no table. -/
theorem respond_of_nobody (hasks : AsksFor env s r id) (hnumber : readUserId id = .ok n)
    (hstorable : fitsWord n = true) (hnobody : ∀ u ∈ s.tables.users, u.id = n → u.deleted = some true) :
    (env.respond s r).1.status = 404 ∧
      (env.respond s r).1.body = .json (detail (.str "User not found")) ∧
      (env.respond s r).2.tables = s.tables := by
  have hstop : findUser s id = .error (.failed (.refused .userNotFound)) := by
    rw [findUser_eq hnumber, Tables.userById_of_deleted hstorable hnobody]
    rfl
  obtain ⟨sessions, hcarried⟩ := carryOut_of_asksFor hasks hstop
  obtain ⟨hstatus, hbody, hnext⟩ := respond_of_refused hcarried
  rw [hstatus, hbody, hnext]
  exact ⟨rfl, rfl, rfl⟩

/-! ### Requests that are carried out -/

/-- A user who is found is shown. -/
theorem carryOut_getUser (hasked : r.action? = some (.getUser id))
    (hfound : authenticate env.settings env.now r.bearer s.sessions = (.ok session, sessions))
    (hnumber : readUserId id = .ok n) (huser : s.tables.userById n = .ok u) :
    env.carryOut s r = (.ok (.ok (s.tables.userView u)), { s with sessions }) := by
  rw [carryOut_of_action hasked]
  change env.withSession s r (fun _ s => Service.getUser id s) = _
  exact withSession_of_done hfound (getUser_eq_ok_iff.mpr ⟨n, u, hnumber, huser, rfl, rfl⟩)

/-- An administrator who asks for a change of a user that the table takes puts the changed row in the place
of the user. -/
theorem carryOut_updateUser {form : UserEditForm} {tables : Tables}
    (hasked : r.action? = some (.updateUser id))
    (hfound : authenticate env.settings env.now r.bearer s.sessions = (.ok session, sessions))
    (hpermitted : session.requireRole adminRoles = .ok ()) (hnumber : readUserId id = .ok n)
    (hread : readBody UserEditForm.read r = .ok form) (huser : s.tables.userById n = .ok u)
    (hupdate : s.tables.updateUser env.now session.actorLabel u form.patch = .ok (changed, tables)) :
    env.carryOut s r = (.ok (.ok (tables.userView changed)), ⟨tables, sessions⟩) := by
  rw [carryOut_of_action hasked]
  change env.withSession s r (fun session s => env.updateUser session id s r) = _
  exact withSession_of_done hfound (updateUser_eq_ok_iff.mpr
    ⟨n, form, u, changed, tables, hpermitted, hnumber, hread, huser, hupdate, rfl, rfl⟩)

/-- The request is answered for the user: the user is shown, is edited if the form fits, or is marked as
deleted, and nothing else changes in the tables. -/
structure Serves (env : Service) (s : State) (r : Request) (u : User) : Prop where
  shows : ∀ id, r.action? = some (.getUser id) → (env.respond s r).1.status = 200 ∧
    (env.respond s r).1.body = .json (s.tables.userView u) ∧ (env.respond s r).2.tables = s.tables
  changes : ∀ id form, r.action? = some (.updateUser id) → readBody UserEditForm.read r = .ok form →
    form.Fits s.tables u → ∃ actor, (env.respond s r).1.status = 200 ∧
      (env.respond s r).1.body = .json ((env.respond s r).2.tables.userView (form.edited u env.now actor)) ∧
      Tables.Changes u (form.edited u env.now actor) s.tables.users (env.respond s r).2.tables.users ∧
      SameOthers s.tables (env.respond s r).2.tables
  deletes : ∀ id, r.action? = some (.deleteUser id) → ∃ actor, (env.respond s r).1.status = 200 ∧
    (env.respond s r).1.body = .json (.obj [("status", .str "deleted"), ("id", .int u.id)]) ∧
    Tables.Changes u { u with deleted := some true, deletedBy := actor, deletedAt := some env.now }
      s.tables.users (env.respond s r).2.tables.users ∧
    SameOthers s.tables (env.respond s r).2.tables

/-- A request for the number of a live user is answered for the user. -/
theorem serves_of_live (hk : s.tables.Keyed) (hasks : AsksFor env s r id)
    (hnumber : readUserId id = .ok u.id) (hstorable : fitsWord u.id = true) (hmem : u ∈ s.tables.users)
    (hlive : u.isLive = true) : env.Serves s r u := by
  have huser := Tables.userById_of_mem hk.hasDistinctNumbers hstorable hmem hlive
  cases hasks with
  | shows asked found =>
    have hcarried := carryOut_getUser asked found hnumber huser
    have hdone := congrArg Prod.fst hcarried
    refine ⟨fun id _ => ⟨status_of_ok hdone, body_of_ok hdone, ?_⟩, ?_, ?_⟩
    · rw [respond_state, hcarried]
    · intro id' form asked'
      cases asked.symm.trans asked'
    · intro id' asked'
      cases asked.symm.trans asked'
  | @changes session sessions form asked found permitted read =>
    refine ⟨?_, fun id' form' _ read' hfits => ⟨session.actorLabel, ?_⟩, ?_⟩
    · intro id' asked'
      cases asked.symm.trans asked'
    · cases read.symm.trans read'
      have hcarried := carryOut_updateUser asked found permitted hnumber read huser
        (Tables.updateUser_of_fits hk hmem hfits env.now session.actorLabel)
      have hdone := congrArg Prod.fst hcarried
      rw [status_of_ok hdone, body_of_ok hdone, respond_state, hcarried]
      exact ⟨rfl, rfl, Tables.changes_replaceUser hk.hasDistinctNumbers hmem _, rfl, rfl, rfl⟩
    · intro id' asked'
      cases asked.symm.trans asked'
  | @deletes session sessions asked found permitted =>
    refine ⟨?_, ?_, fun id' _ => ⟨session.actorLabel, ?_⟩⟩
    · intro id' asked'
      cases asked.symm.trans asked'
    · intro id' form asked'
      cases asked.symm.trans asked'
    · have hcarried := carryOut_deleteUser asked found permitted hnumber huser
      have hdone := congrArg Prod.fst hcarried
      rw [status_of_ok hdone, body_of_ok hdone, respond_state, hcarried]
      exact ⟨rfl, rfl, Tables.changes_replaceUser hk.hasDistinctNumbers hmem _, rfl, rfl, rfl⟩

/-! ### A user who is looked for -/

/-- The request that shows the user of a number, with a token. -/
def lookingFor (token number : String) : Request :=
  ⟨"GET", "/api/users/" ++ number, "", [("Authorization", "Bearer " ++ token)], none⟩

/-- The user of the number is asked for, by whoever has the token of the administrator. -/
theorem asksFor_lookingFor {token number : String} {expires : WallTime}
    (htoken : userToken hourly noon expires member = .ok token)
    (hvalid : noon.unixSeconds ≤ expires.unixTimestamp)
    (hasked : (lookingFor "" number).action? = some (.getUser number)) :
    AsksFor (atClock noon) (withUser token member) (lookingFor token number) number :=
  .shows hasked (authenticate_administered htoken hvalid)

/-- Among the rows of one user there is one under the number and the address of the user. -/
theorem keyed_withUser (token : String) : (withUser token member).tables.Keyed :=
  keyed_signedOutAs "USER"

/-! ### Requests for single users over runs -/

/-- After every run from tables whose users are apart, an authorized request for a single user is answered as
follows.  If its address has no number, for which the decimal text of an integer is too long only beyond 4300
digits, it is refused with 422.  If the number does not fit 64 bits, it fails with 500.  Otherwise it is refused
with 404 if all users of the number are marked as deleted, and it is answered for the one that is not. -/
theorem singleUser_of_run {start : State} (hk : start.tables.Keyed) (steps : List (Service × Request))
    (hasks : AsksFor env (run start steps) r id) :
    let s := run start steps
    let answer := (env.respond s r).1
    let next := (env.respond s r).2
    (∀ n, id = Text.decimal n → readUserId id = if n.natAbs < 10 ^ Text.maxDigits then .ok n
        else .failed [⟨["path", "user_id"], .oversizedInt⟩]) ∧
      (∀ errors, readUserId id = .failed errors → answer.status = 422 ∧ next.tables = s.tables) ∧
      ∀ n, readUserId id = .ok n →
        (fitsWord n = false → answer.status = 500 ∧ answer.body = .text "Internal Server Error" ∧
          next.tables = s.tables) ∧
        (fitsWord n = true →
          ((∀ u ∈ s.tables.users, u.id = n → u.deleted = some true) → answer.status = 404 ∧
            answer.body = .json (detail (.str "User not found")) ∧ next.tables = s.tables) ∧
          ∀ u ∈ s.tables.users, u.id = n → u.isLive = true → env.Serves s r u) := by
  intro s answer next
  refine ⟨?_, fun errors hunread => respond_of_unreadable hasks hunread, fun n hnumber =>
    ⟨respond_of_unstorable hasks hnumber, fun hstorable =>
      ⟨respond_of_nobody hasks hnumber hstorable, fun u hu hid hlive => ?_⟩⟩⟩
  · rintro n rfl
    exact readUserId_decimal n
  · subst hid
    exact serves_of_live (keyed_run hk steps) hasks hnumber hstorable hu hlive

/-- The one user there is is shown, and a second one is not found. -/
theorem singleUser_of_run_member : ∃ token,
    let s := withUser token member
    ((atClock noon).respond s (lookingFor token "1")).1.status = 200 ∧
      ((atClock noon).respond s (lookingFor token "1")).1.body = .json (s.tables.userView member) ∧
      ((atClock noon).respond s (lookingFor token "2")).1.status = 404 := by
  obtain ⟨token, expires, htoken, hvalid⟩ := exists_token_member
  have hasked : (lookingFor "" "1").action? = some (.getUser "1") := by
    decide
  have hfirst := asksFor_lookingFor htoken hvalid hasked
  have hsecond := @asksFor_lookingFor token "2" _ htoken hvalid (by decide)
  obtain ⟨-, -, hserved⟩ := singleUser_of_run (keyed_withUser token) [] hfirst
  obtain ⟨-, -, hrefused⟩ := singleUser_of_run (keyed_withUser token) [] hsecond
  have hshown := ((hserved 1 rfl).2 rfl).2 member (List.mem_singleton_self _) rfl rfl
  obtain ⟨hstatus, hbody, -⟩ := hshown.shows "1" hasked
  refine ⟨token, hstatus, hbody, (((hrefused 2 rfl).2 rfl).1 fun u hu hid => ?_).1⟩
  cases List.mem_singleton.mp hu
  cases hid

/-- Who looks for a user under the number `2 ^ 63`, which nobody has, is answered with 500. -/
theorem singleUser_unstorable : ∃ token,
    let s := withUser token member
    let r := lookingFor token "9223372036854775808"
    AsksFor (atClock noon) s r (Text.decimal (2 ^ 63)) ∧ (∀ u ∈ s.tables.users, u.id ≠ 2 ^ 63) ∧
      ((atClock noon).respond s r).1.status = 500 := by
  obtain ⟨token, expires, htoken, hvalid⟩ := exists_token_member
  have hdecimal : Text.decimal (2 ^ 63) = "9223372036854775808" := by
    decide +kernel
  have hasks := @asksFor_lookingFor token "9223372036854775808" _ htoken hvalid (by decide)
  have hnumber : readUserId "9223372036854775808" = .ok (2 ^ 63) := by
    rw [← hdecimal, readUserId_decimal, if_pos]
    exact Nat.lt_of_lt_of_le (by decide) (Nat.pow_le_pow_right (by decide) (show 20 ≤ Text.maxDigits by decide))
  refine ⟨token, ?_, fun u hu => ?_, (respond_of_unstorable hasks hnumber (by decide)).1⟩
  · rw [hdecimal]
    exact hasks
  · cases List.mem_singleton.mp hu
    decide

end Backoffice.Web.Service
