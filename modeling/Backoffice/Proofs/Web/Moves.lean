import Mathlib
import Backoffice.Proofs.Web.Actions

/-!
# What a request does to the state

`Moves` lists everything that a single request can do to the tables and the sessions, with what has to
hold for it; `Service.moves_respond` says that there is nothing else.  Properties of all runs are proved
from it, move by move.
-/

namespace Backoffice.Web

/-- What is asked by the address and the method of a request, if there is such. -/
def Request.action? (r : Request) : Option Action :=
  (Route.ofSegments r.segments).bind (·.action? r.method)

namespace Service

variable {env : Service} {s next : State} {r : Request}

/-- What a request can do to the state. -/
inductive Moves (env : Service) (s : State) (r : Request) : State → Prop
  /-- Nothing. -/
  | stays : Moves env s r s
  /-- The session is looked for, and perhaps dropped because it is over. -/
  | looks : Moves env s r
      { s with sessions := (authenticate env.settings env.now r.bearer s.sessions).2 }
  /-- Somebody registers. -/
  | registers {form : RegisterForm} {user : User} {tables : Tables} (asked : r.action? = some .register)
      (read : readBody RegisterForm.read r = .ok form)
      (done : s.tables.register env.now env.salts form = .ok (user, tables)) :
      Moves env s r { s with tables }
  /-- Somebody logs in. -/
  | logsIn {form : LoginForm} {principal : Principal} {next : State} (asked : r.action? = some .login)
      (read : readBody LoginForm.read r = .ok form)
      (done : s.login env.settings env.now form = .ok (principal, next)) : Moves env s r next
  /-- The holder of a session logs out. -/
  | logsOut {session : SessionFields} {sessions : Session.Store} (asked : r.action? = some .logout)
      (found : authenticate env.settings env.now r.bearer s.sessions = (.ok session, sessions)) :
      Moves env s r { s with sessions := sessions.logout env.now (r.bearer.getD "") }
  /-- An administrator adds a user. -/
  | creates {session : SessionFields} {sessions : Session.Store} {form : NewUserForm} {user : User}
      {tables : Tables} (asked : r.action? = some .createUser)
      (found : authenticate env.settings env.now r.bearer s.sessions = (.ok session, sessions))
      (permitted : session.requireRole adminRoles = .ok ())
      (done : s.tables.addUser env.now env.salts session.actorLabel form = .ok (user, tables)) :
      Moves env s r ⟨tables, sessions⟩
  /-- An administrator changes a user. -/
  | updates {id : String} {n : Int} {session : SessionFields} {sessions : Session.Store}
      {form : UserEditForm} {user changed : User} {tables : Tables}
      (asked : r.action? = some (.updateUser id))
      (found : authenticate env.settings env.now r.bearer s.sessions = (.ok session, sessions))
      (permitted : session.requireRole adminRoles = .ok ())
      (known : s.tables.userById n = .ok user)
      (done : s.tables.updateUser env.now session.actorLabel user form.patch = .ok (changed, tables)) :
      Moves env s r ⟨tables, sessions⟩
  /-- An administrator marks a user as deleted. -/
  | deletes {id : String} {n : Int} {session : SessionFields} {sessions : Session.Store} {user : User}
      (asked : r.action? = some (.deleteUser id))
      (found : authenticate env.settings env.now r.bearer s.sessions = (.ok session, sessions))
      (permitted : session.requireRole adminRoles = .ok ())
      (known : s.tables.userById n = .ok user) :
      Moves env s r ⟨(s.tables.softDeleteUser env.now session.actorLabel user).2, sessions⟩

/-! ### Moves of actions -/

/-- What is settled is a move if what it comes to is one. -/
theorem moves_settle {o : Outcome} (h : ∀ reply next, o = .ok (reply, next) → Moves env s r next) :
    Moves env s r (settle s o).2 := by
  rcases o with stop | ⟨reply, next⟩
  · exact .stays
  · exact h reply next rfl

/-- What is done for a session is a move if what it comes to is one for every session that is found. -/
theorem moves_withSession {act : SessionFields → State → Outcome}
    (h : ∀ session sessions reply next,
      authenticate env.settings env.now r.bearer s.sessions = (.ok session, sessions) →
      act session { s with sessions } = .ok (reply, next) → Moves env s r next) :
    Moves env s r (env.withSession s r act).2 := by
  have hlooks : Moves env s r
      { s with sessions := (authenticate env.settings env.now r.bearer s.sessions).2 } := .looks
  rcases hauth : authenticate env.settings env.now r.bearer s.sessions with ⟨refusal | session, sessions⟩
  · rw [withSession_of_stranger hauth]
    rwa [hauth] at hlooks
  · rw [withSession_of_found hauth]
    rcases hact : act session { s with sessions } with stop | ⟨reply, next⟩
    · rwa [hauth] at hlooks
    · exact h session sessions reply next hauth hact

/-- What is done for a session without a change of the state only looks for the session. -/
theorem moves_withSession_of_unchanged {act : SessionFields → State → Outcome}
    (hact : ∀ session s reply next, act session s = .ok (reply, next) → next = s) :
    Moves env s r (env.withSession s r act).2 := by
  refine moves_withSession fun session sessions reply next hauth hdone => ?_
  have hlooks : Moves env s r
      { s with sessions := (authenticate env.settings env.now r.bearer s.sessions).2 } := .looks
  rw [hact _ _ _ _ hdone]
  rwa [hauth] at hlooks

/-- A list request leaves the state as it is, but for a session that is over. -/
theorem moves_withList {params : Except Refusal ListParams} {act : ListParams → State → Outcome}
    (hact : ∀ p s reply next, act p s = .ok (reply, next) → next = s) :
    Moves env s r (env.withList s r params act).2 := by
  unfold withList
  cases params with
  | error refusal => exact .stays
  | ok p => exact moves_withSession_of_unchanged fun _ => hact p

/-- An action that is asked for does nothing else than what is listed. -/
theorem moves_perform {a : Action} (hasked : r.action? = some a) : Moves env s r (env.perform s r a).2 := by
  unfold perform
  cases a with
  | landing | health | healthStatus => exact .stays
  | register =>
    refine moves_settle fun reply next h => ?_
    obtain ⟨form, user, tables, hread, hdone, -, rfl⟩ := register_eq_ok_iff.mp h
    exact .registers hasked hread hdone
  | login =>
    refine moves_settle fun reply next h => ?_
    obtain ⟨form, principal, hread, hdone, -⟩ := login_eq_ok_iff.mp h
    exact .logsIn hasked hread hdone
  | logout =>
    refine moves_withSession fun session sessions reply next hfound h => ?_
    cases h
    exact .logsOut hasked hfound
  | refreshUser =>
    refine moves_withSession_of_unchanged fun session s reply next h => ?_
    cases h
    rfl
  | listUsers =>
    refine moves_withList fun p s reply next h => ?_
    obtain ⟨_, _, -, -, -, hsame⟩ := listUsers_eq_ok_iff.mp h
    exact hsame
  | createUser =>
    refine moves_withSession fun session sessions reply next hfound h => ?_
    obtain ⟨form, user, tables, hpermitted, -, hdone, -, rfl⟩ := createUser_eq_ok_iff.mp h
    exact .creates hasked hfound hpermitted hdone
  | getUser id =>
    refine moves_withSession_of_unchanged fun session s reply next h => ?_
    obtain ⟨_, _, -, -, -, hsame⟩ := getUser_eq_ok_iff.mp h
    exact hsame
  | updateUser id =>
    refine moves_withSession fun session sessions reply next hfound h => ?_
    obtain ⟨n, form, user, changed, tables, hpermitted, -, -, huser, hdone, -, rfl⟩ :=
      updateUser_eq_ok_iff.mp h
    exact .updates hasked hfound hpermitted huser hdone
  | deleteUser id =>
    refine moves_withSession fun session sessions reply next hfound h => ?_
    obtain ⟨n, user, hpermitted, -, huser, -, rfl⟩ := deleteUser_eq_ok_iff.mp h
    exact .deletes hasked hfound hpermitted huser
  | listLookup source =>
    refine moves_withList fun p s reply next h => ?_
    obtain ⟨_, _, _, -, -, -, -, hsame⟩ := listLookup_eq_ok_iff.mp h
    exact hsame
  | showMenu =>
    refine moves_withSession_of_unchanged fun session s reply next h => ?_
    obtain ⟨_, -, -, hsame⟩ := showMenu_eq_ok_iff.mp h
    exact hsame

/-! ### Requests -/

/-- A request does what it asks for. -/
theorem carryOut_of_action {a : Action} (h : r.action? = some a) :
    env.carryOut s r = env.perform s r a := by
  unfold Request.action? at h
  obtain ⟨route, hroute, haction⟩ := Option.bind_eq_some_iff.mp h
  unfold carryOut
  rw [hroute]
  simp only [haction]

/-- A request that is refused is answered by the status and the text of the refusal. -/
theorem respond_of_refused {refusal : Refusal}
    (h : env.carryOut s r = (.error (.failed (.refused refusal)), next)) :
    (env.respond s r).1.status = refusal.status ∧
      (env.respond s r).1.body = .json (detail (.str refusal.detail)) ∧ (env.respond s r).2 = next := by
  unfold respond
  rw [h]
  exact ⟨rfl, rfl, rfl⟩

/-- A request that asks for nothing known leaves the state as it is. -/
theorem carryOut_of_no_action (h : r.action? = none) : (env.carryOut s r).2 = s := by
  unfold carryOut
  split
  · rfl
  · rename_i route hroute
    split
    · rfl
    · rename_i a haction
      unfold Request.action? at h
      rw [hroute] at h
      exact absurd (haction.symm.trans h) (Option.some_ne_none a)

/-- The state after a request does not depend on how the answer is written. -/
theorem respond_state (env : Service) (s : State) (r : Request) :
    (env.respond s r).2 = (env.carryOut s r).2 := by
  unfold respond
  simp only []
  split <;> rfl

/-- Nothing else happens than what is listed. -/
theorem moves_respond (env : Service) (s : State) (r : Request) :
    Moves env s r (env.respond s r).2 := by
  rw [respond_state]
  cases hasked : r.action? with
  | none =>
    rw [carryOut_of_no_action hasked]
    exact .stays
  | some a =>
    rw [carryOut_of_action hasked]
    exact moves_perform hasked

/-! ### Runs -/

/-- The state after some requests, each with what surrounds it. -/
def run (s : State) (steps : List (Service × Request)) : State :=
  steps.foldl (fun s step => (step.1.respond s step.2).2) s

/-- What holds at the beginning and is kept by every move holds after every run. -/
theorem run_induction {P : State → Prop} (steps : List (Service × Request)) (hstart : P s)
    (hmoves : ∀ env s r next, P s → Moves env s r next → P next) : P (run s steps) := by
  induction steps generalizing s with
  | nil => exact hstart
  | cons step steps ih => exact ih (hmoves _ _ _ _ hstart (moves_respond step.1 s step.2))

end Service

end Backoffice.Web
