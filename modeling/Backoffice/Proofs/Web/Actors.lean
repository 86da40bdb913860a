import Mathlib
import Backoffice.Proofs.Web.Roles

/-!
# In whose name users are written

Whoever adds, changes or deletes a user leaves a name in the row: the own user name or, if there is none, the
own address, without the blanks at its ends.  The user name is the one of the login, which stands for the
full name if it is not empty.  So the row names somebody, unless the full name of the administrator is not
empty and yet blank: then the address does not step in, and nobody is named (`Service.actors_of_run`).
-/

namespace Backoffice

/-- The name in which the session of a principal acts. -/
theorem Principal.actorLabel_fields (p : Principal) : SessionFields.actorLabel p.fields =
    Text.nonBlank? (some (if p.username = "" then p.email else p.username)) := by
  have husername : SessionFields.field p.fields "username" = .str p.username := rfl
  have hemail : SessionFields.field p.fields "email" = .str p.email := rfl
  have hlabel : ∀ s, (Json.str s).label = s := by
    intro s
    by_cases hempty : s = ""
    · rw [hempty]
      rfl
    · unfold Json.label
      rw [if_neg (by simpa [Json.isEmpty] using hempty)]
  unfold SessionFields.actorLabel
  rw [husername, hemail, hlabel, hlabel]

/-- The user has a full name, but one of nothing but blanks. -/
def User.HasBlankName (u : User) : Prop :=
  u.fullName ≠ "" ∧ Text.strip u.fullName = ""

/-- A user who has an address acts in the own name, unless this is blank. -/
theorem User.actorLabel_of_address {u : User} {p : Principal} (hemail : Text.strip u.email ≠ "")
    (hname : p.username = u.displayName) :
    (¬ u.HasBlankName → Text.strip p.username ≠ "" ∧
        SessionFields.actorLabel p.fields = some (Text.strip p.username)) ∧
      (u.HasBlankName → SessionFields.actorLabel p.fields = none) := by
  have haddress : u.email ≠ "" := by
    rintro hempty
    rw [hempty] at hemail
    exact hemail rfl
  have husername : p.username ≠ "" := by
    rw [hname, displayName]
    split_ifs with hfull
    · exact haddress
    · exact hfull
  have hlabel : SessionFields.actorLabel p.fields = Text.nonBlank? (some p.username) := by
    rw [Principal.actorLabel_fields, if_neg husername]
  rw [hlabel]
  constructor
  · intro hnamed
    have hstrip : Text.strip p.username ≠ "" := by
      rw [hname, displayName]
      split_ifs with hfull
      · exact hemail
      · exact fun hblank => hnamed ⟨hfull, hblank⟩
    exact ⟨hstrip, if_neg hstrip⟩
  · rintro ⟨hfull, hblank⟩
    rw [hname, displayName, if_neg hfull]
    exact if_pos hblank

namespace Web

/-- The request asks for a user to be added, changed or deleted. -/
def Request.Administers (r : Request) : Prop :=
  r.action? = some .createUser ∨ ∃ id, r.action? = some (.updateUser id) ∨ r.action? = some (.deleteUser id)

namespace Service

variable {env : Service} {s start : State} {r : Request} {p : Principal} {u : User}
  {steps : List (Service × Request)}

/-- The request adds, changes or deletes one user, and names the actor in the row of this user. -/
inductive Signs (env : Service) (s : State) (r : Request) (actor : Option String) : Prop
  | creates {row : User} (asked : r.action? = some .createUser)
      (rows : (env.respond s r).2.tables.users = s.tables.users ++ [row]) (signed : row.createdBy = actor)
  | updates {id : String} {old row : User} (asked : r.action? = some (.updateUser id))
      (number : readUserId id = .ok old.id)
      (changes : Tables.Changes old row s.tables.users (env.respond s r).2.tables.users)
      (signed : row.updatedBy = actor)
  | deletes {id : String} {old row : User} (asked : r.action? = some (.deleteUser id))
      (number : readUserId id = .ok old.id)
      (changes : Tables.Changes old row s.tables.users (env.respond s r).2.tables.users)
      (marked : row.deleted = some true) (signed : row.deletedBy = actor)

/-- What an administrator does is done in a session, and names its actor. -/
theorem signs_of_status (hnumbers : s.tables.HasDistinctNumbers) (hasked : r.Administers)
    (hdone : (env.respond s r).1.status < 300) : ∃ session,
      (authenticate env.settings env.now r.bearer s.sessions).1 = .ok session ∧
        env.Signs s r session.actorLabel := by
  obtain ⟨reply, hreply⟩ := exists_reply_of_status hdone
  rcases hasked with hasked | ⟨id, hasked | hasked⟩
  · obtain ⟨form, row, session, -, hadd, -, hfound⟩ := addUser_of_reply hasked hreply
    obtain ⟨htables, hnew⟩ := Tables.of_addUser hadd
    refine ⟨session, hfound, .creates hasked ?_ hnew.createdBy⟩
    rw [htables]
  · obtain ⟨n, form, old, row, session, hn, -, hold, happly, htables, -, hfound⟩ :=
      updateUser_of_reply hasked hreply
    obtain ⟨hmem, rfl, -⟩ := Tables.mem_of_userById hold
    refine ⟨session, hfound, .updates hasked hn ?_ (UserEditForm.address_of_applyTo happly).2⟩
    rw [htables]
    exact Tables.changes_replaceUser hnumbers hmem row
  · obtain ⟨n, old, session, hn, hold, htables, -, hfound⟩ := softDeleteUser_of_reply hasked hreply
    obtain ⟨hmem, rfl, -⟩ := Tables.mem_of_userById hold
    obtain ⟨row, hchanges, hmarked, hsigned⟩ :=
      Tables.exists_changes_softDeleteUser hnumbers hmem env.now session.actorLabel
    rw [← htables] at hchanges
    exact ⟨session, hfound, .deletes hasked hn hchanges hmarked hsigned⟩

/-- After every run from an empty store of sessions in which every stored address is not blank, a request
that adds, changes or deletes a user and is answered as carried out was made with the token of a login of
the run.  It names in the row that it writes the user name of this login, without the blanks at its ends, if
the full name of the user who has logged in was empty or more than blanks; this is then not blank.  If the
full name was not empty and blank then it names nobody. -/
theorem actors_of_run {cacheAnswers : Bool} (hstart : start.sessions = .start cacheAnswers)
    (hdistinct : start.tables.HasDistinctNumbers) (steps : List (Service × Request))
    (hnumbered : ∀ earlier, earlier <+: steps → (run start earlier).tables.IsNumbered)
    (hemails : ∀ earlier, earlier <+: steps →
      ∀ u ∈ (run start earlier).tables.users, Text.strip u.email ≠ "")
    (hasked : r.Administers) (hdone : (env.respond (run start steps) r).1.status < 300) :
    ∃ before env' login after p u, steps = before ++ (env', login) :: after ∧
      env'.Opens (run start before) login p ∧ r.bearer = some p.token ∧
      u ∈ (run start before).tables.users ∧ p.userId = u.id ∧ p.email = u.email ∧
      p.username = (if u.fullName = "" then u.email else u.fullName) ∧
      (¬ u.HasBlankName → Text.strip p.username ≠ "" ∧
        env.Signs (run start steps) r (some (Text.strip p.username))) ∧
      (u.HasBlankName → env.Signs (run start steps) r none) := by
  obtain ⟨session, hfound, hsigns⟩ := signs_of_status (hasDistinctNumbers_run hdistinct steps) hasked hdone
  obtain ⟨p, opened, ⟨before, env', login, after, rfl, hopens, -⟩, hbearer, rfl⟩ :=
    exists_isOpen_of_found hstart hnumbered hfound
  obtain ⟨u, hu, hid, hemail, husername, -⟩ := hopens.exists_row
  -- the session says what the row said at the login, so that it is the address of then that counts
  obtain ⟨hnamed, hblank⟩ :=
    User.actorLabel_of_address (hemails before (List.prefix_append _ _) u hu) husername
  refine ⟨before, env', login, after, p, u, rfl, hopens, hbearer, hu, hid, hemail, husername, ?_, ?_⟩
  · intro hname
    obtain ⟨hstrip, hlabel⟩ := hnamed hname
    exact ⟨hstrip, hlabel ▸ hsigns⟩
  · intro hname
    exact hblank hname ▸ hsigns

/-- Nobody is named in the row that an administrator adds who has a blank for a name, although all addresses
are there. -/
theorem createdBy_of_appointment : ∃ (p : Principal) (row : User),
    let s := run untouched enlisted
    let added := (atClock noon).respond s (appointment p.token)
    (∀ earlier, earlier <+: enlisted ++ [(atClock noon, appointment p.token)] →
        ∀ u ∈ (run untouched earlier).tables.users, Text.strip u.email ≠ "") ∧
      added.1.status = 201 ∧ added.2.tables.users = s.tables.users ++ [row] ∧ row.createdBy = none := by
  obtain ⟨p, row, hname, hstatus, hrows, hnew⟩ := exists_appointment
  have hlabel : SessionFields.actorLabel p.fields = none := by
    rw [Principal.actorLabel_fields, hname, if_neg (by decide)]
    decide
  have hstored : ∀ earlier, earlier <+: enlisted →
      ∀ u ∈ (run untouched earlier).tables.users, Text.strip u.email ≠ "" := by
    intro earlier hearlier u hu
    rw [emails_enlisted earlier hearlier u hu]
    decide
  refine ⟨p, row, fun earlier hearlier u hu => ?_, hstatus, hrows, hnew.createdBy.trans hlabel⟩
  rcases List.prefix_concat_iff.mp hearlier with rfl | hearlier
  · rw [run_append_singleton, hrows] at hu
    rcases List.mem_append.mp hu with hu | hu
    · exact hstored enlisted List.prefix_rfl u hu
    · rw [List.mem_singleton.mp hu, hnew.email]
      decide
  · exact hstored earlier hearlier u hu

/-- An administrator without a name who deletes the own user is named by the address. -/
theorem actors_of_run_removal : ∃ p : Principal,
    (atClock noon).Signs (run (signedOutAs "ADMIN") [(atClock noon, signIn)]) (removal p.token)
      (some "a@b.c") := by
  have hexpires : noon.after (hoursSpan 1) = .ok ⟨63900003600000000, by decide⟩ :=
    WallTime.after_eq_ok_iff.mpr (by decide)
  obtain ⟨p, hp, hid, hrole⟩ := exists_opens_signedOutAs "ADMIN" hexpires
  have hbearer : (removal p.token).bearer = some p.token :=
    bearer_signOut (strip_token_signIn hp).1 (strip_token_signIn hp).2
  have hfound := authenticate_signIn hp hexpires (by decide +kernel)
  rw [← hbearer] at hfound
  have hdistinct := hasDistinctNumbers_signedOutAs "ADMIN"
  obtain ⟨s, hs⟩ : ∃ s, run (signedOutAs "ADMIN") [(atClock noon, signIn)] = s := ⟨_, rfl⟩
  have hbacks : s.tables.Backs p := by
    rw [← hs, run_singleton]
    exact hp.backs_respond hdistinct
  rw [hs] at hfound
  have hdone : ((atClock noon).respond s (removal p.token)).1.status < 300 := by
    have hwithdraws : (atClock noon).Withdraws s (removal p.token) p :=
      withdraws_removal hid hrole hbacks hfound
    cases hwithdraws with
    | deletes asked number done | changes asked number read strips done =>
      rw [done]
      decide
  rw [← hs] at hdone
  have hstored : ∀ u ∈ (signedOutAs "ADMIN").tables.users, Text.strip u.email ≠ "" := by
    intro u hu
    rw [List.mem_singleton.mp hu]
    decide
  have hemails : ∀ earlier, earlier <+: [(atClock noon, signIn)] →
      ∀ u ∈ (run (signedOutAs "ADMIN") earlier).tables.users, Text.strip u.email ≠ "" := by
    intro earlier hearlier u hu
    rw [← List.nil_append [(atClock noon, signIn)], List.prefix_concat_iff, List.prefix_nil] at hearlier
    rcases hearlier with rfl | rfl
    · rw [run_append_singleton] at hu
      obtain ⟨old, hold, -, hemail⟩ := hp.exists_old hu
      rw [hemail]
      exact hstored old hold
    · exact hstored u hu
  have hstart : (signedOutAs "ADMIN").sessions = .start true := rfl
  obtain ⟨before, env', login, after, q, u, hsteps, -, -, hu, -, -, hname, hnamed, -⟩ :=
    actors_of_run hstart hdistinct [(atClock noon, signIn)] (isRegular_signIn hp).numbered hemails
      (.inr ⟨"1", .inr (action_removal p.token)⟩) hdone
  have hbefore : before = [] := by
    obtain ⟨rfl, -⟩ | ⟨-, hrest⟩ := List.append_eq_singleton_iff.mp hsteps.symm
    · rfl
    · cases hrest
  rw [hbefore] at hu
  have huser : u = { member with role := "ADMIN" } := List.mem_singleton.mp hu
  have hfull : u.fullName = "" := by
    rw [huser]
    decide
  have husername : q.username = "a@b.c" := by
    rw [hname, if_pos hfull, huser]
    rfl
  obtain ⟨-, hsigns⟩ := hnamed fun hblank => hblank.1 hfull
  rw [husername] at hsigns
  exact ⟨p, hsigns⟩

end Service

end Web

end Backoffice
