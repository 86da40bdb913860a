import Mathlib
import Backoffice.Proofs.Web.Registration
import Backoffice.Proofs.Web.SingleUsers
import Backoffice.Proofs.Web.Snapshots

/-!
# What a change of a user writes

A change of a user that is answered as carried out writes the columns that its body has a field for, each with
the value of the field, and who has made the change when.  It leaves all other columns of the row, the other
users and the other tables (`Service.edited_of_run`).
-/

namespace Backoffice.Web.Service

variable {env : Service} {r : Request} {id : String}

/-- After every run from users with different numbers: a change of a user that is answered with 200 has found
a live user of the number in its address.  In the row of the user every column that the body has a field for
holds the value of the field, null included, the address in its normal form; the actor and the time are those of
the change, and every other column, every other user and every other table is as it was. -/
theorem edited_of_run {start : State} (hdistinct : start.tables.HasDistinctNumbers)
    (steps : List (Service × Request)) (hasked : r.action? = some (.updateUser id))
    (hdone : (env.respond (run start steps) r).1.status = 200) :
    let s := run start steps
    let next := (env.respond s r).2
    ∃ (fields : List (String × Json)) (session : SessionFields) (u row : User),
      r.body = some (.obj fields) ∧
      (authenticate env.settings env.now r.bearer s.sessions).1 = .ok session ∧
      readUserId id = .ok u.id ∧ u.isLive = true ∧
      Tables.Changes u row s.tables.users next.tables.users ∧
      row.IsEditOf u fields env.now session.actorLabel ∧ SameOthers s.tables next.tables := by
  intro s next
  have hnumbers : s.tables.HasDistinctNumbers := hasDistinctNumbers_run hdistinct steps
  obtain ⟨reply, hreply⟩ := exists_reply_of_status (lt_of_eq_of_lt hdone (by decide))
  obtain ⟨n, form, user, changed, session, hn, hread, huser, hchanged, htables, -, hfound⟩ :=
    updateUser_of_reply hasked hreply
  obtain ⟨fields, hbody, hform⟩ := exists_fields_of_readBody hread
  obtain ⟨hmem, rfl, hlive⟩ := Tables.mem_of_userById huser
  rw [form.applyTo_patch] at hchanged
  cases hchanged
  change next.tables = _ at htables
  rw [htables]
  exact ⟨fields, session, user, _, hbody, hfound, hn, hlive, Tables.changes_replaceUser hnumbers hmem _,
    User.isEditOf_edited hform user env.now session.actorLabel, rfl, rfl, rfl⟩

/-! ### A user who loses the name -/

/-- A user with a name and a number to call. -/
def anna : User :=
  { member with name := some "Anna", surname := some "Bee", phoneNumber := some "12" }

/-- The request that gives the first user another address and takes the name away, with a token. -/
def unnaming (token : String) : Request :=
  ⟨"PUT", "/api/users/1", "", [("Authorization", "Bearer " ++ token)],
    some (.obj [("email", .str " New@B.c "), ("name", .null), ("is_active", .bool false)])⟩

/-- The user is changed under its number. -/
theorem action_unnaming (token : String) : (unnaming token).action? = some (.updateUser "1") := by
  have hsame : (unnaming token).action? = (unnaming "").action? := rfl
  rw [hsame]
  decide

/-- The form of the request. -/
def unnamingForm : UserEditForm :=
  ⟨some " New@B.c ", some none, none, none, none, some false, none, none⟩

/-- The request is carried out. -/
theorem status_unnaming {token : String} {expires : WallTime}
    (htoken : userToken hourly noon expires member = .ok token)
    (hvalid : noon.unixSeconds ≤ expires.unixTimestamp) :
    ((atClock noon).respond (withUser token anna) (unnaming token)).1.status = 200 := by
  have hread : readBody UserEditForm.read (unnaming token) = .ok unnamingForm := by
    cbv
  have hk : (withUser token anna).tables.Keyed := by
    refine ⟨List.pairwise_singleton _ _, fun u hu => ?_⟩
    rw [List.mem_singleton.mp hu]
    exact normalizeEmail_member
  have hfits : unnamingForm.Fits (withUser token anna).tables anna := by
    refine ⟨fun n hn => ?_, fun email _ v hv hne => ?_⟩
    · cases hn
    · exact absurd (congrArg User.id (List.mem_singleton.mp hv)) hne
  have huser : (withUser token anna).tables.userById 1 = .ok anna := rfl
  have hcarried : (atClock noon).carryOut (withUser token anna) (unnaming token) = _ :=
    carryOut_updateUser (action_unnaming token) (authenticate_administered htoken hvalid) (by decide) rfl hread
      huser (Tables.updateUser_of_fits hk (List.mem_singleton_self _) hfits _ _)
  exact status_of_ok (congrArg Prod.fst hcarried)

/-- The row has the new address in its normal form, no name and not the mark of an active user; everything
else is as before. -/
theorem edited_of_run_unnaming : ∃ token,
    let next := ((atClock noon).respond (withUser token anna) (unnaming token)).2
    ((atClock noon).respond (withUser token anna) (unnaming token)).1.status = 200 ∧
      next.tables.users = [{ anna with
        email := "new@b.c", name := none, isActive := false, updatedBy := none, updatedAt := some noon }] := by
  obtain ⟨token, expires, htoken, hvalid⟩ := exists_token_member
  have hdone := status_unnaming htoken hvalid
  have hdistinct : (withUser token anna).tables.HasDistinctNumbers := List.nodup_singleton _
  obtain ⟨fields, session, u, row, hbody, hfound, -, -, ⟨before, after, hrows, hnext⟩, hedit, -⟩ :=
    edited_of_run hdistinct [] (action_unnaming token) hdone
  have hsession := congrArg Prod.fst (authenticate_administered htoken hvalid)
  cases hfound.symm.trans hsession
  cases hbody
  obtain ⟨rfl, hone⟩ | ⟨-, hone⟩ := List.append_eq_singleton_iff.mp hrows.symm
  · cases hone
    have hnormal : Form.asStoredAddress (.str " New@B.c ") = .ok "new@b.c" := by
      decide +kernel
    have hemail : Form.asStoredAddress (.str " New@B.c ") = .ok row.email := hedit.email
    have hname : Form.orNull Form.asText .null = .ok row.name := hedit.name
    have hactive : Form.asBool (.bool false) = .ok row.isActive := hedit.isActive
    have hrow := hedit.others
    rw [← Except.ok.inj (hnormal.symm.trans hemail), ← Except.ok.inj hname, ← Except.ok.inj hactive,
      show row.surname = anna.surname from hedit.surname,
      show row.phoneNumber = anna.phoneNumber from hedit.phoneNumber,
      show row.role = anna.role from hedit.role, show row.statusId = anna.statusId from hedit.statusId,
      show row.changePassword = anna.changePassword from hedit.changePassword] at hrow
    have hnobody : SessionFields.actorLabel [("role", .str "ADMIN")] = none := by
      decide +kernel
    rw [hrow, hnobody] at hnext
    exact ⟨token, hdone, hnext⟩
  · cases hone

end Backoffice.Web.Service
