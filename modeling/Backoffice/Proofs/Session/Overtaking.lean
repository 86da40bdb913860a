import Mathlib
import Backoffice.Proofs.Session.Entries
import Backoffice.Proofs.Session.Interleaving
import Backoffice.Proofs.Session.LastLogin

/-!
# A logout beside a login

A logout reads the token of the last login and, if it is its own, deletes two entries, each with a call of
its own; a login writes the same two entries.  If both are handled at the same time then the login keeps its
session, but may lose the two entries: the logout deletes them if it has read its own token there before the
login has written the new one (`Race.peek_of_logout_beside_login`).  If it deletes only one of them then the
entries of the last login do not belong together any more (`Race.isLinked_iff`).
-/

namespace Backoffice.Session.Race

variable {b : Race} {trace : List Event} {side : Side} {key : String} {later : WallTime}

/-- A logout of a token and a login, both about to begin. -/
def begin (store : Store) (token : String) (p : Principal) (ttl : ℤ) : Race where
  store := store
  scripts
    | .logout => Script.logout token
    | .login => Script.login p ttl

/-- Both sides are done. -/
def IsOver (r : Race) : Prop :=
  ∀ side, r.scripts side = .done

/-- Who has written the entry of a key last. -/
def lastSide? (trace : List Event) (key : String) : Option Side :=
  (lastEvent? trace key).map (·.1)

/-- Whoever has written an entry last has written it. -/
theorem written_of_lastSide? (h : lastSide? trace key = some side) :
    ∃ e ∈ trace, e.1 = side ∧ e.2.2.written? = some key := by
  obtain ⟨e, hlast, hside⟩ := Option.map_eq_some_iff.mp h
  obtain ⟨he, hwritten⟩ := of_lastEvent? hlast
  exact ⟨e, he, hside, hwritten⟩

/-- The calls come in the order of time, and are looked back on at a time when nothing that was set by one
of them is over yet. -/
structure IsTimely (trace : List Event) (ttl : ℤ) (later : WallTime) : Prop where
  inOrder : trace.Pairwise fun e f => e.2.1.micros ≤ f.2.1.micros
  isPast : ∀ e ∈ trace, e.2.1.micros ≤ later.micros
  isFresh : ∀ e ∈ trace, (later.micros : ℤ) < expiry e.2.1 ttl

variable {store : Store} {token : String} {p : Principal} {ttl : ℤ}

/-- Each side makes its own calls. -/
theorem mem_calls_of_begin (h : Runs (begin store token p ttl) trace b) {e : Event} (he : e ∈ trace) :
    (e.1 = .logout → e.2.2 ∈ Script.logoutCalls token) ∧ (e.1 = .login → e.2.2 ∈ Script.loginCalls p ttl) :=
  ⟨only_of_runs .logout h (Script.only_logout token) e he,
    only_of_runs .login h (Script.only_ofCalls fun _ hc => hc) e he⟩

/-- What is set is read back as it was written. -/
theorem isExact_of_begin (h : Runs (begin store token p ttl) trace b) (hnumber : fitsWord p.userId = true) :
    ∀ e ∈ trace, ∀ key value ttl', e.2.2 = .set key value ttl' → value.IsExact := by
  obtain ⟨hexact, hint⟩ := p.isExact_of_fitsWord hnumber
  rintro ⟨side, now, c⟩ he key value ttl' rfl
  obtain ⟨hlogout, hlogin⟩ := mem_calls_of_begin h he
  cases side with
  | logout => simp [Script.logoutCalls] at hlogout
  | login =>
    have hset := hlogin rfl
    simp only [Script.loginCalls, List.mem_cons, Call.set.injEq, List.not_mem_nil, or_false] at hset
    rcases hset with ⟨-, rfl, -⟩ | ⟨-, rfl, -⟩ | ⟨-, rfl, -⟩
    · exact hexact
    · exact .str _
    · exact hint

/-- Once the login is done it has made all its calls. -/
theorem exists_event_of_loginCalls (h : Runs (begin store token p ttl) trace b) (hover : b.IsOver)
    {c : Call} (hc : c ∈ Script.loginCalls p ttl) : ∃ e ∈ trace, e.1 = .login ∧ e.2.2 = c := by
  obtain ⟨rest, hcalls, hscript⟩ := callsOf_of_runs .login h rfl
  have hrest : rest = [] := by
    cases rest with
    | nil => rfl
    | cons => cases (hover .login).symm.trans hscript
  rw [hcalls, hrest, List.append_nil] at hc
  obtain ⟨e, he, rfl⟩ := List.mem_map.mp hc
  rw [List.mem_filter, decide_eq_true_eq] at he
  exact ⟨e, he.1, he.2, rfl⟩

/-- A key that one of the calls has written has no value in the end if the logout has written it last, and
else the one that the login gives it. -/
theorem peek_of_written (h : Runs (begin store token p ttl) trace b) (htimely : IsTimely trace ttl later)
    (hnumber : fitsWord p.userId = true) {e : Event} (he : e ∈ trace)
    (hwritten : e.2.2.written? = some key) :
    (lastSide? trace key = some .logout ∧ b.store.peek later key = none) ∨
      (lastSide? trace key = some .login ∧ ∃ value, .set key value ttl ∈ Script.loginCalls p ttl ∧
        b.store.peek later key = some value) := by
  obtain ⟨⟨side, now, c⟩, hlast⟩ := exists_lastEvent? he hwritten
  obtain ⟨hmem, hkey⟩ := of_lastEvent? hlast
  obtain ⟨hlogout, hlogin⟩ := mem_calls_of_begin h hmem
  rw [peek_of_runs h (isExact_of_begin h hnumber) htimely.isPast, lastSide?, hlast]
  cases side with
  | logout =>
    obtain ⟨rfl, -⟩ := Script.eq_delete_of_mem_logoutCalls (hlogout rfl) hkey
    exact .inl ⟨rfl, due_delete now key later⟩
  | login =>
    obtain ⟨value, rfl⟩ := Script.exists_set_of_mem_loginCalls (hlogin rfl) hkey
    have hgiven : due [(now, .set key value ttl)] later key = some value := by
      rw [due_set, if_pos (htimely.isFresh _ hmem)]
    exact .inr ⟨rfl, value, hlogin rfl, hgiven⟩

/-- An entry of the login is there in the end, unless the logout has written it last. -/
theorem peek_of_loginCalls (h : Runs (begin store token p ttl) trace b) (hover : b.IsOver)
    (htimely : IsTimely trace ttl later) (hpoint : '.' ∈ p.token.toList)
    (hnumber : fitsWord p.userId = true) {value : Json}
    (hset : .set key value ttl ∈ Script.loginCalls p ttl) :
    b.store.peek later key = if lastSide? trace key = some .logout then none else some value := by
  obtain ⟨e, he, -, hcall⟩ := exists_event_of_loginCalls h hover hset
  have hwritten : e.2.2.written? = some key := by
    rw [hcall]
    rfl
  rcases peek_of_written h htimely hnumber he hwritten with
    ⟨hside, hpeek⟩ | ⟨hside, value', hset', hpeek⟩
  · rw [hpeek, if_pos hside]
  · cases Script.eq_of_mem_loginCalls hpoint hset' hset rfl
    rw [hpeek, if_neg (by simp [hside])]

/-- The logout of another token leaves the session of the login. -/
theorem peek_session_of_login (h : Runs (begin store token p ttl) trace b) (hover : b.IsOver)
    (htimely : IsTimely trace ttl later) (hother : token ≠ p.token) (hpoint : '.' ∈ p.token.toList)
    (hnumber : fitsWord p.userId = true) : b.store.peek later p.token = some (.obj p.fields) := by
  obtain ⟨hnoToken, hnoUser⟩ := Store.ne_of_point hpoint
  have hkept : lastSide? trace p.token ≠ some .logout := by
    intro hlast
    obtain ⟨e, he, hside, hwritten⟩ := written_of_lastSide? hlast
    obtain ⟨-, hwhich⟩ := Script.eq_delete_of_mem_logoutCalls ((mem_calls_of_begin h he).1 hside) hwritten
    simp [Ne.symm hother, hnoToken, hnoUser] at hwhich
  rw [peek_of_loginCalls h hover htimely hpoint hnumber (Script.mem_loginCalls p ttl).1, if_neg hkept]

/-- The entries of the last login are linked after such a race if the logout has deleted both of them or
none. -/
theorem isLinked_iff (h : Runs (begin store token p ttl) trace b) (hover : b.IsOver)
    (htimely : IsTimely trace ttl later) (hother : token ≠ p.token) (hpoint : '.' ∈ p.token.toList)
    (hnumber : fitsWord p.userId = true) :
    b.store.IsLinked later ↔
      (lastSide? trace tokenKey = some .logout ↔ lastSide? trace userKey = some .logout) := by
  have hsession := peek_session_of_login h hover htimely hother hpoint hnumber
  have htoken := peek_of_loginCalls h hover htimely hpoint hnumber (Script.mem_loginCalls p ttl).2.1
  have huser := peek_of_loginCalls h hover htimely hpoint hnumber (Script.mem_loginCalls p ttl).2.2
  constructor
  · intro hlinked
    by_cases hlast : lastSide? trace tokenKey = some .logout
    · -- a number would be named without a token
      refine iff_of_true hlast (by_contra fun hkept => ?_)
      rw [if_neg hkept] at huser
      obtain ⟨last, hgiven⟩ := hlinked.user _ huser
      rw [htoken, if_pos hlast] at hgiven
      cases hgiven
    · -- a token would be named without the number of its user
      refine iff_of_false hlast fun hgone => ?_
      rw [if_neg hlast] at htoken
      obtain ⟨q, -, -, hgiven⟩ := hlinked.session _ htoken
      rw [huser, if_pos hgone] at hgiven
      cases hgiven
  · intro hboth
    by_cases hlast : lastSide? trace tokenKey = some .logout
    · rw [if_pos hlast] at htoken
      rw [if_pos (hboth.mp hlast)] at huser
      constructor
      · intro value hvalue
        cases htoken.symm.trans hvalue
      · intro value hvalue
        cases huser.symm.trans hvalue
    · rw [if_neg hlast] at htoken
      rw [if_neg (mt hboth.mpr hlast)] at huser
      constructor
      · intro value hvalue
        exact ⟨p, Option.some_inj.mp (hvalue.symm.trans htoken), hsession, huser⟩
      · intro value _
        exact ⟨_, htoken⟩

/-- A logout reads the token of the last login once.  Before that it only deletes its own session, and it
does nothing afterwards unless it has read its own token. -/
theorem exists_reading (h : Runs (begin store token p ttl) trace b) (hover : b.IsOver) :
    ∃ before now after mid, trace = before ++ (.logout, now, .get tokenKey) :: after ∧
      Runs (begin store token p ttl) before mid ∧
      (∀ e ∈ before, e.1 = .logout → e.2.2 = .delete token) ∧
      ∀ e ∈ after, e.1 = .logout → mid.store.peek now tokenKey = some (.str token) := by
  obtain ⟨first, t, rest, -, -, m, rfl, hfirst, -, -, hscript, hupTo, hrest⟩ :=
    exists_next_call .logout h rfl (hover .logout)
  obtain ⟨second, now, after, mid, given, m', rfl, hsecond, hbetween, hserve, hforget, -, hafter⟩ :=
    exists_next_call .logout hrest hscript (hover .logout)
  refine ⟨_, now, after, mid, by simp, hupTo.append hbetween, fun e he hside => ?_, fun e he hside => ?_⟩
  · rcases List.mem_append.mp he with he | he
    · rcases List.mem_append.mp he with he | he
      · exact absurd hside (hfirst e he)
      · rw [List.mem_singleton.mp he]
    · exact absurd hside (hsecond e he)
  · have hgiven : given = [some (.str token)] :=
      (only_of_runs .logout hafter (hforget ▸ Script.only_forget token given) e he hside).1
    exact List.singleton_inj.mp ((Prod.mk.inj (Except.ok.inj hserve)).1.trans hgiven)

variable {before : List Event} {mid : Race} {now : WallTime}

/-- If the logout reads its own token, then the login has not yet written the new one. -/
theorem unwritten_of_reading (h : Runs (begin store token p ttl) before mid)
    (hdeletes : ∀ e ∈ before, e.1 = .logout → e.2.2 = .delete token)
    (hpast : ∀ e ∈ before, e.2.1.micros ≤ now.micros) (hother : token ≠ p.token)
    (hpoint : '.' ∈ token.toList) (hpoint' : '.' ∈ p.token.toList) (hnumber : fitsWord p.userId = true)
    (hread : mid.store.peek now tokenKey = some (.str token)) :
    (∀ e ∈ before, e.2.2.written? ≠ some tokenKey) ∧ store.peek now tokenKey = some (.str token) := by
  obtain ⟨hnoToken, -⟩ := Store.ne_of_point hpoint
  rw [peek_of_runs h (isExact_of_begin h hnumber) hpast] at hread
  cases hlast : lastEvent? before tokenKey with
  | none =>
    rw [hlast] at hread
    refine ⟨fun e he hwritten => ?_, hread⟩
    obtain ⟨last, hlast'⟩ := exists_lastEvent? he hwritten
    cases hlast.symm.trans hlast'
  | some last =>
    -- the logout writes another key until then, and the login another token
    exfalso
    rw [hlast, Option.elim_some] at hread
    obtain ⟨hmem, hwritten⟩ := of_lastEvent? hlast
    rcases last with ⟨side, t, c⟩
    cases side with
    | logout =>
      cases hdeletes _ hmem rfl
      exact hnoToken (Option.some.inj hwritten)
    | login =>
      have hset : c = .set tokenKey (.str p.token) ttl :=
        Script.eq_of_mem_loginCalls hpoint' ((mem_calls_of_begin h hmem).2 rfl)
          (Script.mem_loginCalls p ttl).2.1 hwritten
      rw [hset, due_set] at hread
      split_ifs at hread
      cases hread
      exact hother rfl

/-- If the logout has written an entry of the last login then it has read its own token there before, and
when it did no call of the race had written the token. -/
theorem exists_read_of_written (h : Runs (begin store token p ttl) trace b) (hover : b.IsOver)
    (htimely : IsTimely trace ttl later) (hother : token ≠ p.token) (hpoint : '.' ∈ token.toList)
    (hpoint' : '.' ∈ p.token.toList) (hnumber : fitsWord p.userId = true) {e : Event} (he : e ∈ trace)
    (hside : e.1 = .logout) (hkey : e.2.2.written? = some tokenKey ∨ e.2.2.written? = some userKey) :
    ∃ before now after, trace = before ++ (.logout, now, .get tokenKey) :: after ∧
      (∀ e ∈ before, e.2.2.written? ≠ some tokenKey) ∧ store.peek now tokenKey = some (.str token) := by
  obtain ⟨hnoToken, hnoUser⟩ := Store.ne_of_point hpoint
  obtain ⟨before, now, after, mid, rfl, hbefore, hdeletes, hforgets⟩ := exists_reading h hover
  have hpast : ∀ f ∈ before, f.2.1.micros ≤ now.micros :=
    fun f hf => (List.pairwise_append.mp htimely.inOrder).2.2 f hf _ List.mem_cons_self
  have hread : mid.store.peek now tokenKey = some (.str token) := by
    rcases List.mem_append.mp he with he | he
    · -- it has deleted no more than its session by then
      simp [hdeletes e he hside, Call.written?, hnoToken, hnoUser] at hkey
    · rcases List.mem_cons.mp he with rfl | he
      · simp [Call.written?] at hkey
      · exact hforgets e he hside
  exact ⟨before, now, after, rfl,
    unwritten_of_reading hbefore hdeletes hpast hother hpoint hpoint' hnumber hread⟩

/-! ### A login between the reading and the deleting of a logout -/

/-- The calls of a login that comes after the logout has read the token of the last login and before it
deletes the entries, all of them at one time. -/
def overtaken (now : WallTime) (token : String) (p : Principal) (ttl : ℤ) : List Event :=
  [(.logout, now, .delete token), (.logout, now, .get tokenKey),
    (.login, now, .set p.token (.obj p.fields) ttl), (.login, now, .set tokenKey (.str p.token) ttl),
    (.login, now, .set userKey (.int p.userId) ttl), (.logout, now, .delete tokenKey),
    (.logout, now, .delete userKey)]

/-- If the logout finds its own token in the store, then such a race can be. -/
theorem exists_runs_overtaken (hlast : store.peek now tokenKey = some (.str token))
    (hpoint : '.' ∈ token.toList) (hexpiry : expiry now ttl < calendarMicros) (p : Principal) :
    ∃ b, Runs (begin store token p ttl) (overtaken now token p ttl) b ∧ b.IsOver := by
  obtain ⟨hnoToken, -⟩ := Store.ne_of_point hpoint
  have hget : (store.delete now token).serve now (.get tokenKey) =
      .ok ([some (.str token)], ((store.delete now token).get now tokenKey).2) := by
    have hread : (store.delete now token).peek now tokenKey = some (.str token) := by
      rw [Store.peek_delete, if_neg (Ne.symm hnoToken), hlast]
    unfold Store.serve
    rw [← hread]
    rfl
  obtain ⟨first, hfirst⟩ := Store.exists_serve_set hexpiry ((store.delete now token).get now tokenKey).2
    p.token (.obj p.fields)
  obtain ⟨second, hsecond⟩ := Store.exists_serve_set hexpiry first tokenKey (.str p.token)
  obtain ⟨third, hthird⟩ := Store.exists_serve_set hexpiry second userKey (.int p.userId)
  have hforget : Script.forget token [some (.str token)] = .ofCalls [.delete tokenKey, .delete userKey] :=
    if_pos rfl
  refine ⟨_, .cons (.serves rfl rfl) <| .cons (.serves rfl hget) <| .cons (.serves rfl hfirst) <|
    .cons (.serves rfl hsecond) <| .cons (.serves rfl hthird) <| .cons (.serves hforget rfl) <|
    .cons (.serves rfl rfl) .nil, ?_⟩
  rintro (_ | _) <;> rfl

/-- Such a race takes no time. -/
theorem isTimely_overtaken (now : WallTime) (token : String) (p : Principal) (ttl : ℤ) :
    IsTimely (overtaken now token p ttl) ttl now := by
  have hnow : ∀ e ∈ overtaken now token p ttl, e.2.1 = now := by
    simp [overtaken]
  have hfresh : (now.micros : ℤ) < expiry now ttl := by
    have hsecond : 0 < (secondMicros : ℤ) := by decide
    have hkept : 0 < max ttl 1 := lt_of_lt_of_le one_pos (le_max_right ttl 1)
    exact lt_add_of_pos_right _ (mul_pos hkept hsecond)
  refine ⟨?_, fun e he => (congrArg _ (hnow e he)).le, fun e he => by rwa [hnow e he]⟩
  exact List.pairwise_of_forall_mem_list fun e he f hf => by rw [hnow e he, hnow f hf]

/-! ### What a logout does to a login -/

/-- A login that is overtaken by the logout of another token keeps its session, and the other token loses
its own.  Each entry of the last login is the one of the new login, unless the logout has written it last:
then it is gone.  This is only so if the logout has found its own token there before the login has named the
new one. -/
theorem peek_of_logout_beside_login (h : Runs (begin store token p ttl) trace b) (hover : b.IsOver)
    (htimely : IsTimely trace ttl later) (hother : token ≠ p.token) (hpoint : '.' ∈ token.toList)
    (hpoint' : '.' ∈ p.token.toList) (hnumber : fitsWord p.userId = true) :
    b.store.peek later token = none ∧ b.store.peek later p.token = some (.obj p.fields) ∧
      b.store.peek later tokenKey =
        (if lastSide? trace tokenKey = some .logout then none else some (.str p.token)) ∧
      b.store.peek later userKey =
        (if lastSide? trace userKey = some .logout then none else some (.int p.userId)) ∧
      (lastSide? trace tokenKey = some .logout ∨ lastSide? trace userKey = some .logout →
        ∃ before now after, trace = before ++ (.logout, now, .get tokenKey) :: after ∧
          (∀ e ∈ before, e.2.2.written? ≠ some tokenKey) ∧ store.peek now tokenKey = some (.str token)) := by
  have hentry : ∀ {key value}, .set key value ttl ∈ Script.loginCalls p ttl → b.store.peek later key =
      if lastSide? trace key = some .logout then none else some value :=
    peek_of_loginCalls h hover htimely hpoint' hnumber
  obtain ⟨hnoToken, hnoUser⟩ := Store.ne_of_point hpoint
  refine ⟨?_, peek_session_of_login h hover htimely hother hpoint' hnumber,
    hentry (Script.mem_loginCalls p ttl).2.1, hentry (Script.mem_loginCalls p ttl).2.2, ?_⟩
  · -- the login writes no entry of the other token, so that its deletion is the last call to it
    obtain ⟨before, t, after, -, -, -, rfl, -⟩ := exists_next_call .logout h rfl (hover .logout)
    have hmem : (.logout, t, .delete token) ∈ before ++ (Side.logout, t, Call.delete token) :: after :=
      List.mem_append_right before List.mem_cons_self
    rcases peek_of_written h htimely hnumber hmem rfl with ⟨-, hgone⟩ | ⟨-, value, hset, -⟩
    · exact hgone
    · simp [Script.loginCalls, hother, hnoToken, hnoUser] at hset
  · have hread : ∀ {key}, lastSide? trace key = some .logout → key = tokenKey ∨ key = userKey →
        ∃ before now after, trace = before ++ (.logout, now, .get tokenKey) :: after ∧
          (∀ e ∈ before, e.2.2.written? ≠ some tokenKey) ∧
          store.peek now tokenKey = some (.str token) := by
      intro key hlast hkey
      obtain ⟨e, he, hside, hwritten⟩ := written_of_lastSide? hlast
      refine exists_read_of_written h hover htimely hother hpoint hpoint' hnumber he hside ?_
      rcases hkey with rfl | rfl
      · exact .inl hwritten
      · exact .inr hwritten
    rintro (hlast | hlast)
    · exact hread hlast (.inl rfl)
    · exact hread hlast (.inr rfl)

/-- Somebody who has logged in, and somebody else who is about to. -/
def firstUser : Principal :=
  ⟨1, "a@b.c", "a@b.c", none, "USER", "a.1", ⟨secondMicros, secondMicros_lt_calendarMicros⟩⟩

@[inherit_doc firstUser]
def secondUser : Principal :=
  ⟨2, "b@b.c", "b@b.c", none, "USER", "b.2", ⟨secondMicros, secondMicros_lt_calendarMicros⟩⟩

/-- The first of them logs out while the second logs in. -/
theorem exists_runs_of_firstUser (cacheAnswers : Bool) : ∃ store b,
    (Store.start cacheAnswers).login .first firstUser 1 = .ok store ∧ store.IsLinked .first ∧
      Runs (begin store "a.1" secondUser 1) (overtaken .first "a.1" secondUser 1) b ∧ b.IsOver := by
  have hexpiry : expiry .first 1 < calendarMicros := by decide
  obtain ⟨first, hfirst⟩ := Store.exists_set_of_expiry_lt hexpiry (Store.start cacheAnswers)
    firstUser.token (.obj firstUser.fields)
  obtain ⟨store, hlogin⟩ := Store.exists_login hfirst
  obtain ⟨hexact, hnumber⟩ := firstUser.isExact_of_fitsWord (by decide)
  have hlast := (Store.peek_login_last hlogin hnumber .first).1
  rw [if_pos (by decide)] at hlast
  obtain ⟨b, hruns, hover⟩ := exists_runs_overtaken hlast (by decide) hexpiry secondUser
  exact ⟨store, b, hlogin, Store.isLinked_login hlogin hexact hnumber (by decide) _, hruns, hover⟩

/-- Both entries of the last login are lost if a login comes between the reading and the deleting of a
logout. -/
theorem lastLogin_lost_overtaken : ∃ store b,
    (Store.start false).login .first firstUser 1 = .ok store ∧ store.IsLinked .first ∧
      Runs (begin store "a.1" secondUser 1) (overtaken .first "a.1" secondUser 1) b ∧ b.IsOver ∧
      secondUser.token ≠ "a.1" ∧ b.store.peek .first tokenKey ≠ some (.str secondUser.token) ∧
      b.store.peek .first userKey ≠ some (.int secondUser.userId) := by
  obtain ⟨store, b, hlogin, hlinked, hruns, hover⟩ := exists_runs_of_firstUser false
  have hpeek := peek_of_runs hruns (isExact_of_begin hruns (by decide))
    (isTimely_overtaken .first "a.1" secondUser 1).isPast
  refine ⟨store, b, hlogin, hlinked, hruns, hover, by decide, ?_, ?_⟩
  · rw [hpeek]
    exact (Option.some_ne_none _).symm
  · rw [hpeek]
    exact (Option.some_ne_none _).symm

/-- The session of the login is there all the same, and the one of the logout is not. -/
theorem peek_of_logout_beside_login_overtaken : ∃ store b,
    Runs (begin store "a.1" secondUser 1) (overtaken .first "a.1" secondUser 1) b ∧ b.IsOver ∧
      IsTimely (overtaken .first "a.1" secondUser 1) 1 .first ∧
      b.store.peek .first "a.1" = none ∧ b.store.peek .first "b.2" = some (.obj secondUser.fields) ∧
      b.store.peek .first tokenKey = none ∧ b.store.peek .first userKey = none ∧
      store.peek .first tokenKey = some (.str "a.1") := by
  obtain ⟨store, b, -, -, hruns, hover⟩ := exists_runs_of_firstUser true
  have htimely := isTimely_overtaken .first "a.1" secondUser 1
  obtain ⟨hgone, hkept, htoken, huser, hread⟩ :=
    peek_of_logout_beside_login hruns hover htimely (by decide) (by decide) (by decide) (by decide)
  obtain ⟨before, now, after, htrace, -, hlast⟩ := hread (.inl rfl)
  have hnow : now = WallTime.first := by
    have hmem : (Side.logout, now, Call.get tokenKey) ∈ overtaken .first "a.1" secondUser 1 := by
      rw [htrace]
      exact List.mem_append_right before List.mem_cons_self
    simpa [overtaken] using hmem
  exact ⟨store, b, hruns, hover, htimely, hgone, hkept, htoken, huser, hnow ▸ hlast⟩

end Backoffice.Session.Race
