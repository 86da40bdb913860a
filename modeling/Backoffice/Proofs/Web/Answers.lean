import Mathlib
import Backoffice.Proofs.Web.Moves

/-!
# What an answer depends on

A request is answered alike in two states with the same sessions, if what it lists or finds in the tables
of one is shown as what it lists or finds in the tables of the other.  There is a lemma for the requests
that show users and rows of pickers and one for the menu.
-/

namespace Backoffice.Web.Service

variable {env : Service} {s s' : State} {r : Request}

/-- Equal outcomes are answered alike. -/
theorem respond_congr (h : (env.carryOut s r).1 = (env.carryOut s' r).1) :
    (env.respond s r).1 = (env.respond s' r).1 := by
  unfold respond
  simp only [h]
  split <;> rfl

/-- What is done for a session is answered alike in two states with the same sessions, if it is answered
alike for every session. -/
theorem withSession_congr {act : SessionFields → State → Outcome} (hsessions : s.sessions = s'.sessions)
    (hact : ∀ session sessions, (act session { s with sessions }).map Prod.fst =
      (act session { s' with sessions }).map Prod.fst) :
    (env.withSession s r act).1 = (env.withSession s' r act).1 := by
  have hsettle : ∀ (s : State) (o : Outcome), (settle s o).1 = o.map Prod.fst := by
    intro s o
    cases o <;> rfl
  unfold withSession
  rw [← hsessions]
  rcases authenticate env.settings env.now r.bearer s.sessions with ⟨refusal | session, sessions⟩
  · rfl
  · dsimp only
    rw [hsettle, hsettle, hact]

/-- A list request is answered alike in two states with the same sessions, if the list is. -/
theorem withList_congr {params : Except Refusal ListParams} {act : ListParams → State → Outcome}
    (hsessions : s.sessions = s'.sessions)
    (hact : ∀ p sessions, params = .ok p → (act p { s with sessions }).map Prod.fst =
      (act p { s' with sessions }).map Prod.fst) :
    (env.withList s r params act).1 = (env.withList s' r params act).1 := by
  unfold withList
  cases params with
  | error refusal => rfl
  | ok p => exact withSession_congr hsessions fun _ sessions => hact p sessions rfl

/-- A result without a failure is the result. -/
theorem orFail_ok {α : Type} (a : α) : orFail (.ok a) = .ok a := rfl

/-- A step that does not change the state replies with what is made of its result. -/
theorem map_fst_reply {α : Type} (x : Except Failure α) (view : α → Json) (s : State) :
    Except.map Prod.fst (do
      let a ← orFail x
      return (Reply.ok (view a), s)) = (orFail (view <$> x)).map Reply.ok := by
  cases x <;> rfl

/-- A list of users is answered alike if the users are listed and shown alike. -/
theorem respond_listUsers_congr (hasked : r.action? = some .listUsers)
    (hsessions : s.sessions = s'.sessions)
    (hlists : ∀ p d, (User.listSpecSortedBy env.userSort).compile env.settings p = .ok d →
      s.tables.usersView p <$> s.tables.listUsers d env.paths.users =
        s'.tables.usersView p <$> s'.tables.listUsers d env.paths.users) :
    (env.respond s r).1 = (env.respond s' r).1 := by
  refine respond_congr ?_
  rw [carryOut_of_action hasked, carryOut_of_action hasked]
  change (env.withList s r (r.listQuery.params env.settings) env.listUsers).1 =
    (env.withList s' r (r.listQuery.params env.settings) env.listUsers).1
  refine withList_congr hsessions fun p sessions _ => ?_
  unfold Service.listUsers
  cases hd : (User.listSpecSortedBy env.userSort).compile env.settings p with
  | error f => rfl
  | ok d =>
    simp only [orFail_ok, ok_bind]
    rw [map_fst_reply, map_fst_reply, hlists p d hd]

/-- A picker is answered alike if its rows are listed alike. -/
theorem respond_listLookup_congr {source : String} (hasked : r.action? = some (.listLookup source))
    (hsessions : s.sessions = s'.sessions)
    (hlists : ∀ p, r.listQuery.lookupParams env.settings = .ok p →
      ∀ kind : LookupSource, ∀ d, kind.listSpec.compile env.settings p = .ok d →
        s.tables.lookup kind d (env.paths.picker kind) = s'.tables.lookup kind d (env.paths.picker kind)) :
    (env.respond s r).1 = (env.respond s' r).1 := by
  refine respond_congr ?_
  rw [carryOut_of_action hasked, carryOut_of_action hasked]
  change (env.withList s r (r.listQuery.lookupParams env.settings) (env.listLookup source)).1 =
    (env.withList s' r (r.listQuery.lookupParams env.settings) (env.listLookup source)).1
  refine withList_congr hsessions fun p sessions hp => ?_
  unfold Service.listLookup
  cases LookupSource.ofName source with
  | error f => rfl
  | ok kind =>
    simp only [orFail_ok, ok_bind]
    cases hd : kind.listSpec.compile env.settings p with
    | error f => rfl
    | ok d =>
      simp only [orFail_ok, ok_bind]
      rw [map_fst_reply, map_fst_reply, hlists p hp kind d hd]

/-- A user is answered alike if it is found and shown alike. -/
theorem respond_getUser_congr {id : String} (hasked : r.action? = some (.getUser id))
    (hsessions : s.sessions = s'.sessions)
    (hfinds : ∀ n, s.tables.userView <$> s.tables.userById n = s'.tables.userView <$> s'.tables.userById n) :
    (env.respond s r).1 = (env.respond s' r).1 := by
  refine respond_congr ?_
  rw [carryOut_of_action hasked, carryOut_of_action hasked]
  refine withSession_congr hsessions fun _ sessions => ?_
  unfold Service.getUser
  cases readUserId id with
  | failed errors => rfl
  | ok n =>
    simp only [orReject, ok_bind]
    rw [map_fst_reply, map_fst_reply, hfinds n]

/-- The menu is answered alike if it is the same. -/
theorem respond_showMenu_congr (hasked : r.action? = some .showMenu) (hsessions : s.sessions = s'.sessions)
    (hmenu : s.tables.menu env.settings env.paths.menu = s'.tables.menu env.settings env.paths.menu) :
    (env.respond s r).1 = (env.respond s' r).1 := by
  refine respond_congr ?_
  rw [carryOut_of_action hasked, carryOut_of_action hasked]
  refine withSession_congr hsessions fun _ sessions => ?_
  unfold Service.showMenu
  rw [map_fst_reply, map_fst_reply, hmenu]

end Backoffice.Web.Service
