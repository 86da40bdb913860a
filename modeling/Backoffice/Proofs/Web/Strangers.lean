import Mathlib
import Backoffice.Proofs.Web.Answers
import Backoffice.Proofs.Web.SessionRuns
import Backoffice.Proofs.Web.Writes

/-!
# Requests without a session

Most addresses are open only to those who have a session.  Who has none is refused there before anything
is looked for in the tables, so that the answer says nothing about them (`Service.respond_of_stranger`).
-/

namespace Backoffice

/-- Parameters of a list are refused for what is wrong with them. -/
theorem ListQuery.exists_badParams_of_orRefuse {params : Form.Checked ListParams} {refusal : Refusal}
    (h : orRefuse params = .error refusal) : ∃ faults, refusal = .badParams faults := by
  cases params with
  | ok p => cases h
  | failed errors =>
    cases h
    exact ⟨_, rfl⟩

/-- Parameters of a picker are refused for what is wrong with them. -/
theorem ListQuery.exists_badParams_of_lookupParams {settings : Settings} {q : ListQuery} {refusal : Refusal}
    (h : q.lookupParams settings = .error refusal) : ∃ faults, refusal = .badParams faults := by
  unfold lookupParams at h
  rcases bind_eq_error_iff.mp h with h | ⟨p, -, h⟩
  · exact exists_badParams_of_orRefuse h
  · exact exists_badParams_of_orRefuse h

/-- Who has no session is refused for the lack of one. -/
theorem status_of_authenticate {settings : Settings} {now : WallTime} {token : Option String}
    {store : Session.Store} {refusal : Refusal}
    (h : (authenticate settings now token store).1 = .error refusal) : refusal.status = 401 := by
  unfold authenticate requireToken at h
  split at h
  · rename_i hrefused
    cases h
    split at hrefused
    · cases hrefused
      rfl
    · split at hrefused <;> cases hrefused
      rfl
  · unfold Session.Store.principal at h
    dsimp only at h
    split_ifs at h
    · cases h
      rfl
    · split at h <;> cases h
      rfl

namespace Web

/-- The address is open only to those who have a session. -/
def Route.isGuarded : Route → Bool
  | logout | refreshUser | users | user _ | lookup _ | menu => true
  | landing | health | healthStatus | register | login => false

namespace Service

variable {env : Service} {s : State} {r : Request} {a : Action}

/-- The refusal, if it is one. -/
def refusal? {α : Type} : Except Refusal α → Option Refusal
  | .error refusal => some refusal
  | .ok _ => none

/-- There is a refusal if it is one. -/
theorem refusal?_eq_some_iff {α : Type} {result : Except Refusal α} {refusal : Refusal} :
    refusal? result = some refusal ↔ result = .error refusal := by
  cases result with
  | error e => simp [refusal?]
  | ok a => exact ⟨nofun, nofun⟩

/-- The refusal of the parameters of the list that is asked for. -/
def listRefusal? (env : Service) (r : Request) : Action → Option Refusal
  | .listUsers => refusal? (r.listQuery.params env.settings)
  | .listLookup _ => refusal? (r.listQuery.lookupParams env.settings)
  | _ => none

/-- A list is refused for its parameters as a bad request. -/
theorem status_of_listRefusal? {refusal : Refusal} (h : env.listRefusal? r a = some refusal) :
    refusal.status = 400 := by
  have hbad : ∃ faults, refusal = .badParams faults := by
    cases a with
    | listUsers =>
      have hparams : r.listQuery.params env.settings = .error refusal := refusal?_eq_some_iff.mp h
      exact ListQuery.exists_badParams_of_orRefuse hparams
    | listLookup source =>
      have hparams : r.listQuery.lookupParams env.settings = .error refusal := refusal?_eq_some_iff.mp h
      exact ListQuery.exists_badParams_of_lookupParams hparams
    | _ => cases h
  obtain ⟨faults, rfl⟩ := hbad
  rfl

/-- A list request without a session is refused for its parameters, or else for the lack of a session. -/
theorem withList_of_stranger {params : Except Refusal ListParams} {act : ListParams → State → Outcome}
    {refusal : Refusal} {sessions : Session.Store}
    (hauth : authenticate env.settings env.now r.bearer s.sessions = (.error refusal, sessions)) :
    env.withList s r params act =
      (.error (.failed (.refused ((refusal? params).getD refusal))),
        { s with sessions := if (refusal? params).isSome then s.sessions else sessions }) := by
  cases params with
  | error bad => rfl
  | ok p => exact withSession_of_stranger hauth

/-- A request without a session to a guarded address is refused for the parameters of its list, or else
for the lack of a session, and leaves the tables as they are. -/
theorem perform_of_stranger {refusal : Refusal} {sessions : Session.Store}
    (hguarded : a.place.2.isGuarded = true)
    (hauth : authenticate env.settings env.now r.bearer s.sessions = (.error refusal, sessions)) :
    env.perform s r a = (.error (.failed (.refused ((env.listRefusal? r a).getD refusal))),
      { s with sessions := if (env.listRefusal? r a).isSome then s.sessions else sessions }) := by
  unfold perform
  cases a with
  | listUsers | listLookup source => exact withList_of_stranger hauth
  | logout | refreshUser | createUser | getUser id | updateUser id | deleteUser id | showMenu =>
    exact withSession_of_stranger hauth
  | landing | health | healthStatus | register | login => cases hguarded

/-- Who comes to a guarded address without a session that is accepted is refused with the status 401, or
400 for bad parameters of a list.  The answer does not depend on the tables, which stay as they are, and
so do the sessions that are not over. -/
theorem respond_of_stranger {route : Route} (hroute : Route.ofSegments r.segments = some route)
    (hguarded : route.isGuarded = true) (haction : route.action? r.method = some a)
    (hstranger : ∀ session,
      (authenticate env.settings env.now r.bearer s.sessions).1 ≠ .ok session) :
    (env.respond s r).1.status = (if (env.listRefusal? r a).isSome then 400 else 401) ∧
      (∀ tables, (env.respond { s with tables } r).1 = (env.respond s r).1) ∧
      (env.respond s r).2.tables = s.tables ∧
      ∀ key, (env.respond s r).2.sessions.kept? env.now key = s.sessions.kept? env.now key := by
  have hasked : r.action? = some a := by
    unfold Request.action?
    rw [hroute]
    exact haction
  have hplace : a.place.2.isGuarded = true := by
    rw [Route.place_of_action? haction]
    exact hguarded
  rcases hauth : authenticate env.settings env.now r.bearer s.sessions with ⟨refusal | session, sessions⟩
  swap
  · exact absurd (congrArg Prod.fst hauth) (hstranger session)
  have hcarried : ∀ tables, env.carryOut { s with tables } r =
      (.error (.failed (.refused ((env.listRefusal? r a).getD refusal))),
        ⟨tables, if (env.listRefusal? r a).isSome then s.sessions else sessions⟩) := by
    intro tables
    rw [carryOut_of_action hasked]
    exact perform_of_stranger (s := { s with tables }) hplace hauth
  have hhere : env.carryOut s r = _ := hcarried s.tables
  obtain ⟨hstatus, -, hnext⟩ := respond_of_refused hhere
  refine ⟨?_, ?_, by rw [hnext], ?_⟩
  · rw [hstatus]
    cases hlist : env.listRefusal? r a with
    | none => exact status_of_authenticate (congrArg Prod.fst hauth)
    | some bad => exact status_of_listRefusal? hlist
  · intro tables
    exact respond_congr (by rw [hcarried tables, hhere])
  · intro key
    rw [hnext]
    dsimp only
    split_ifs
    · rfl
    · have hkept := kept?_authenticate env.settings env.now r.bearer s.sessions key
      rwa [hauth] at hkept

/-- A list that is asked for without a token. -/
def listing (query : String) : Request :=
  ⟨"GET", "/api/users", query, [], none⟩

/-- Without a token a list is refused for its parameters if they are bad, whoever is in the tables. -/
theorem respond_of_stranger_listing :
    ((atClock noon).respond signedOut (listing "pageIndex=0")).1.status = 400 ∧
      ((atClock noon).respond signedOut (listing "pageIndex=1")).1.status = 401 ∧
      ∀ tables, ((atClock noon).respond { signedOut with tables } (listing "pageIndex=1")).1 =
        ((atClock noon).respond signedOut (listing "pageIndex=1")).1 := by
  have hstranger : ∀ query session, (authenticate (atClock noon).settings (atClock noon).now
      (listing query).bearer signedOut.sessions).1 ≠ .ok session := by
    intro query session h
    cases h
  have hroute : ∀ query, Route.ofSegments (listing query).segments = some .users := by
    intro query
    have hsame : (listing query).segments = (listing "").segments := rfl
    rw [hsame]
    decide +kernel
  have hbad : ((atClock noon).listRefusal? (listing "pageIndex=0") .listUsers).isSome = true := by
    decide +kernel
  have hgood : ¬ ((atClock noon).listRefusal? (listing "pageIndex=1") .listUsers).isSome = true := by
    decide +kernel
  obtain ⟨hstatus, -⟩ := respond_of_stranger (hroute "pageIndex=0") rfl rfl (hstranger "pageIndex=0")
  obtain ⟨hstatus', hsame, -⟩ :=
    respond_of_stranger (hroute "pageIndex=1") rfl rfl (hstranger "pageIndex=1")
  rw [if_pos hbad] at hstatus
  rw [if_neg hgood] at hstatus'
  exact ⟨hstatus, hstatus', hsame⟩

end Service

end Web

end Backoffice
