import Mathlib
import Backoffice.Proofs.Directory.Secrets
import Backoffice.Proofs.Web.Deletion

/-!
# Secrets of the users

Nobody learns from a read what the service keeps for itself of the users: if two states differ only in the
columns that are never shown, every `GET` request is answered the same in both
(`Service.respond_of_redacted_eq`).  The columns are left out in the tables, list by list and view by view;
what is left here is that a read uses nothing else of the tables.
-/

namespace Backoffice.Web.Service

variable {env : Service} {s s' : State} {r : Request}

/-- A request that asks for nothing known is answered alike in all states. -/
theorem respond_congr_of_no_action (h : r.action? = none) (s s' : State) :
    (env.respond s r).1 = (env.respond s' r).1 := by
  refine respond_congr ?_
  unfold carryOut
  split
  · rfl
  · rename_i route hroute
    split
    · rfl
    · rename_i a haction
      unfold Request.action? at h
      rw [hroute] at h
      exact absurd (haction.symm.trans h) (Option.some_ne_none a)

/-- What a `GET` request asks for is asked for by the method `GET`. -/
theorem method_of_action {a : Action} (hget : r.method = "GET") (h : r.action? = some a) :
    a.place.1 = "GET" :=
  (Request.asks_of_action? h).1.symm.trans hget

/-- Two states with the same sessions, whose tables differ at most in the columns of users that are never
shown, answer every `GET` request alike. -/
theorem respond_of_redacted_eq (env : Service) (hget : r.method = "GET")
    (htables : s.tables.redacted = s'.tables.redacted) (hsessions : s.sessions = s'.sessions) :
    (env.respond s r).1 = (env.respond s' r).1 := by
  cases hasked : r.action? with
  | none => exact respond_congr_of_no_action hasked s s'
  | some a =>
    have hmethod := method_of_action hget hasked
    cases a with
    | landing | health | healthStatus =>
      refine respond_congr ?_
      rw [carryOut_of_action hasked, carryOut_of_action hasked]
      rfl
    | refreshUser =>
      refine respond_congr ?_
      rw [carryOut_of_action hasked, carryOut_of_action hasked]
      exact withSession_congr hsessions fun _ _ => rfl
    | listUsers =>
      refine respond_listUsers_congr hasked hsessions fun p d _ => ?_
      rw [← Tables.listUsers_redacted, htables, Tables.listUsers_redacted]
    | getUser id =>
      refine respond_getUser_congr hasked hsessions fun n => ?_
      rw [← Tables.userById_redacted, htables, Tables.userById_redacted]
    | listLookup source =>
      refine respond_listLookup_congr hasked hsessions fun _ _ kind d _ => ?_
      rw [← Tables.lookup_redacted, htables, Tables.lookup_redacted]
    | showMenu =>
      refine respond_showMenu_congr hasked hsessions ?_
      -- the menu is made of the other tables, and the redaction keeps those
      change s.tables.redacted.menu env.settings env.paths.menu =
        s'.tables.redacted.menu env.settings env.paths.menu
      rw [htables]
    | register | login | logout | createUser | updateUser _ | deleteUser _ =>
      exact absurd hmethod (by simp [Action.place])

/-! ### A user who is shown -/

/-- The request that shows the first user, with a token. -/
def showing (token : String) : Request :=
  ⟨"GET", "/api/users/1", "", [("Authorization", "Bearer " ++ token)], none⟩

/-- The user is asked for by its number. -/
theorem action_showing (token : String) : (showing token).action? = some (.getUser "1") := by
  have hsame : (showing token).action? = (showing "").action? := rfl
  rw [hsame]
  decide

/-- The state with one user and the session of an administrator under a token. -/
def withUser (token : String) (u : User) : State :=
  ⟨⟨[], [u], [], []⟩, (administered token).sessions⟩

/-- The user is shown to the holder of the session. -/
theorem status_showing {token : String} {expires : WallTime}
    (htoken : userToken hourly noon expires member = .ok token)
    (hvalid : noon.unixSeconds ≤ expires.unixTimestamp) :
    ((atClock noon).respond (withUser token member) (showing token)).1.status = 200 := by
  have hauth : authenticate (atClock noon).settings (atClock noon).now (showing token).bearer
      (withUser token member).sessions = _ := authenticate_administered htoken hvalid
  have hcarried : ((atClock noon).carryOut (withUser token member) (showing token)).1 =
      .ok (.ok ((withUser token member).tables.userView member)) := by
    rw [carryOut_of_action (action_showing token)]
    change ((atClock noon).withSession _ _ fun _ s => Service.getUser "1" s).1 = _
    unfold withSession
    rw [hauth]
    rfl
  exact status_of_ok hcarried

/-- A user is shown the same whatever its password and its last token are. -/
theorem respond_of_redacted_eq_member : ∃ token,
    let s := withUser token member
    let s' := withUser token { member with password := "$pbkdf2-sha256$1$$", authToken := some "last" }
    s.tables ≠ s'.tables ∧ ((atClock noon).respond s (showing token)).1.status = 200 ∧
      ((atClock noon).respond s (showing token)).1 = ((atClock noon).respond s' (showing token)).1 := by
  obtain ⟨token, expires, htoken, hvalid⟩ := exists_token_member
  refine ⟨token, ?_, status_showing htoken hvalid, ?_⟩
  · intro hsame
    have hpasswords : [member.password] = ["$pbkdf2-sha256$1$$"] :=
      congrArg (fun t : Tables => t.users.map User.password) hsame
    revert hpasswords
    decide +kernel
  · exact respond_of_redacted_eq (atClock noon) rfl rfl rfl

end Backoffice.Web.Service
