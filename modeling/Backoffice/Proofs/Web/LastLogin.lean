import Mathlib
import Backoffice.Proofs.Session.LastLogin
import Backoffice.Proofs.Web.SessionRuns

/-!
# The last login after a run

Requests are handled one after the other, so that between two of them the three entries of a login are
never seen apart: each request leaves the entries of the last login linked (`isLinked_respond`), and so does
every run from an empty store (`linked_of_run`).
-/

namespace Backoffice.Web.Service

variable {env : Service} {s : State} {r : Request} {p : Principal} {token : String} {later : WallTime}
  {steps : List (Service × Request)}

/-- A request leaves the entries of the last login linked: a login writes them all, a logout ends the
session of an acceptable token, which is no name of an entry, and no other request changes an answer. -/
theorem isLinked_respond (hnumbered : s.tables.IsNumbered) (hlater : env.now.micros ≤ later.micros)
    (h : s.sessions.IsLinked later) : (env.respond s r).2.sessions.IsLinked later := by
  by_cases hopens : ∃ p, env.Opens s r p
  · obtain ⟨p, hp⟩ := hopens
    obtain ⟨hexact, hnumber⟩ := p.isExact_of_fitsWord (hp.fitsWord_userId hnumbered)
    obtain ⟨_, sessions, hdone, hlogin⟩ := carryOut_of_opens hp
    rw [respond_state, hdone]
    exact Session.Store.isLinked_login hlogin hexact hnumber hp.token_form.1 later
  · rw [not_exists] at hopens
    by_cases hcloses : ∃ token, env.Closes s r token
    · obtain ⟨token, hclose⟩ := hcloses
      have hpoint : '.' ∈ token.toList := by
        obtain ⟨-, hbearer, session, hfound⟩ := hclose
        obtain ⟨t, ht, ⟨claims, haccept⟩, -⟩ := authenticate_eq_ok_iff.mp hfound
        cases hbearer.symm.trans ht
        exact Token.point_mem_of_accept haccept
      rw [respond_state, carryOut_of_closes hclose]
      have hlooked : (authenticate env.settings env.now r.bearer s.sessions).2.IsLinked later :=
        h.congr fun key => peek_authenticate _ hlater _ key
      exact hlooked.logout hlater hpoint
    · rw [not_exists] at hcloses
      exact h.congr fun key => peek_of_others hopens hcloses hlater

/-- After every run from an empty store of sessions, in which the numbers of users are ones that the tables
can keep, the entries of the last login are linked, from the last request on: if the store gives a token as
the one of the last login, then it has the session of this token, whose user is the one that it gives as the
user of the last login, and it gives a user only together with a token. -/
theorem linked_of_run {cacheAnswers : Bool} (hstart : s.sessions = .start cacheAnswers)
    (hnumbered : ∀ earlier, earlier <+: steps → (run s earlier).tables.IsNumbered)
    (hlater : ∀ step ∈ steps, step.1.now.micros ≤ later.micros) :
    (run s steps).sessions.IsLinked later := by
  induction steps using List.reverseRecOn with
  | nil =>
    change s.sessions.IsLinked later
    rw [hstart]
    exact Session.Store.isLinked_start cacheAnswers later
  | append_singleton steps step ih =>
    obtain ⟨env, r⟩ := step
    have hbefore := ih (fun earlier hearlier => hnumbered earlier (hearlier.trans (List.prefix_append _ _)))
      fun step hstep => hlater step (List.mem_append_left _ hstep)
    rw [run_append_singleton]
    exact isLinked_respond (hnumbered steps (List.prefix_append _ _)) (hlater (env, r) (by simp)) hbefore

/-- After a login its token is the one of the last login, and linked to its session. -/
theorem linked_of_run_signIn : ∃ p, (atClock noon).Opens signedOut signIn p ∧
    (run signedOut [(atClock noon, signIn)]).sessions.peek noon Session.tokenKey = some (.str p.token) ∧
    (run signedOut [(atClock noon, signIn)]).sessions.IsLinked noon := by
  have hexpires : noon.after (hoursSpan 1) = .ok ⟨63900003600000000, by decide⟩ :=
    WallTime.after_eq_ok_iff.mpr (by decide)
  obtain ⟨p, hp⟩ := exists_opens_signIn hexpires
  have hregular := isRegular_signIn hp
  have hlast : (run signedOut [(atClock noon, signIn)]).sessions.peek noon Session.tokenKey =
      some (.str p.token) := by
    obtain ⟨_, sessions, hdone, hlogin⟩ := carryOut_of_opens hp
    obtain ⟨-, hnumber⟩ :=
      p.isExact_of_fitsWord (hp.fitsWord_userId (hregular.numbered [] List.nil_prefix))
    rw [run_singleton, respond_state, hdone]
    change sessions.peek noon _ = _
    rw [(Session.Store.peek_login_last hlogin hnumber noon).1, if_pos (by decide)]
  have hstart : signedOut.sessions = .start true := rfl
  exact ⟨p, hp, hlast, linked_of_run hstart hregular.numbered now_le_of_mem_signIn⟩

end Backoffice.Web.Service
