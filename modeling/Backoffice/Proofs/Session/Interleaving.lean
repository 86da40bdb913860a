import Mathlib
import Backoffice.Proofs.Session.Calls

/-!
# Calls of two requests side by side

A store serves calls one by one, and the calls of two requests that are handled at the same time may come
in any order.  A script is what one request does with the store, call by call (`Script`); played alone, the
scripts of a logout and of a login do what the store does for them (`Script.play_logout`,
`Script.play_login`).  Played side by side (`Race.Runs`), each side makes its own calls in its own order,
and whoever writes an entry last decides what is under its key (`Race.peek_of_runs`).
-/

namespace Backoffice.Session

/-! ### Scripts -/

/-- What a request still does with a store: nothing, or a call, and then what the answers to it lead to. -/
inductive Script
  | done
  | call (c : Call) (next : List (Option Json) → Script)

namespace Script

/-- The script that makes some calls, whatever the answers are. -/
def ofCalls : List Call → Script
  | [] => .done
  | c :: calls => .call c fun _ => ofCalls calls

/-- The calls of a login: it writes the session and the two entries of the last login. -/
def loginCalls (p : Principal) (ttl : ℤ) : List Call :=
  [.set p.token (.obj p.fields) ttl, .set tokenKey (.str p.token) ttl, .set userKey (.int p.userId) ttl]

/-- The script of a login. -/
def login (p : Principal) (ttl : ℤ) : Script :=
  ofCalls (loginCalls p ttl)

/-- The calls that a logout may make. -/
def logoutCalls (token : String) : List Call :=
  [.delete token, .get tokenKey, .delete tokenKey, .delete userKey]

/-- What a logout does after it has read the token of the last login. -/
def forget (token : String) : List (Option Json) → Script
  | [some (.str last)] => if last = token then ofCalls [.delete tokenKey, .delete userKey] else .done
  | _ => .done

/-- The script of a logout: it deletes the session of its token, and then the two entries of the last login
if it reads there that this was the one of the token. -/
def logout (token : String) : Script :=
  .call (.delete token) fun _ => .call (.get tokenKey) (forget token)

/-- All calls that the script may make, whatever the answers are, have a property. -/
inductive Only (P : Call → Prop) : Script → Prop
  | done : Only P .done
  | call {c : Call} {next : List (Option Json) → Script} (first : P c)
      (rest : ∀ given, Only P (next given)) : Only P (.call c next)

/-- Plays a script alone, all of it at one time. -/
def play (now : WallTime) : Script → Store → Except Overflow Store
  | .done, store => .ok store
  | .call c next, store => do
    let (given, store) ← store.serve now c
    play now (next given) store

variable {store : Store} {now : WallTime} {token : String}

/-- The script of a login, played alone, is the login. -/
theorem play_login (p : Principal) (ttl : ℤ) :
    (login p ttl).play now store = store.login now p ttl := by
  have hset : ∀ (store : Store) key value calls, (ofCalls (.set key value ttl :: calls)).play now store =
      store.set now key value ttl >>= (ofCalls calls).play now := by
    intro store key value calls
    change (Except.map _ (store.set now key value ttl) >>= _) = _
    cases store.set now key value ttl <;> rfl
  unfold login loginCalls Store.login
  rw [hset]
  refine bind_congr fun first => ?_
  rw [hset]
  refine bind_congr fun second => ?_
  rw [hset]
  exact bind_pure _

/-- The script of a logout, played alone, is the logout. -/
theorem play_logout : (logout token).play now store = .ok (store.logout now token) := by
  change (forget token [((store.delete now token).get now tokenKey).1]).play now
    ((store.delete now token).get now tokenKey).2 = _
  unfold Store.logout
  rcases (store.delete now token).get now tokenKey with ⟨_ | v, next⟩
  · rfl
  · cases v with
    | str last =>
      by_cases hlast : last = token
      · simp only [forget, if_pos hlast]
        rfl
      · simp only [forget, if_neg hlast]
        rfl
    | _ => rfl

/-- A script that does not mind the answers makes its own calls only. -/
theorem only_ofCalls {P : Call → Prop} {calls : List Call} (h : ∀ c ∈ calls, P c) :
    (ofCalls calls).Only P := by
  induction calls with
  | nil => exact .done
  | cons c calls ih =>
    rw [List.forall_mem_cons] at h
    exact .call h.1 fun _ => ih h.2

/-- After it has read the token of the last login a logout deletes the two entries, if it does anything. -/
theorem only_forget (token : String) (given : List (Option Json)) :
    (forget token given).Only fun c => given = [some (.str token)] ∧ c ∈ logoutCalls token := by
  unfold forget
  split
  · split_ifs with hlast
    · subst hlast
      refine only_ofCalls fun c hc => ⟨rfl, ?_⟩
      simp only [logoutCalls, List.mem_cons, List.not_mem_nil, or_false] at hc ⊢
      exact .inr (.inr hc)
    · exact .done
  · exact .done

/-- Weakening what is said of the calls of a script. -/
theorem Only.mono {P Q : Call → Prop} {script : Script} (h : script.Only P) (himp : ∀ c, P c → Q c) :
    script.Only Q := by
  induction h with
  | done => exact .done
  | call first _ ih => exact .call (himp _ first) ih

/-- A logout makes no other calls than it may make. -/
theorem only_logout (token : String) : (logout token).Only (· ∈ logoutCalls token) := by
  refine .call (by simp [logoutCalls]) fun _ => .call (by simp [logoutCalls]) fun given => ?_
  exact (only_forget token given).mono fun _ hc => hc.2

/-- What a logout writes it deletes. -/
theorem eq_delete_of_mem_logoutCalls {c : Call} {key : String} (h : c ∈ logoutCalls token)
    (hwritten : c.written? = some key) :
    c = .delete key ∧ (key = token ∨ key = tokenKey ∨ key = userKey) := by
  simp only [logoutCalls, List.mem_cons, List.not_mem_nil, or_false] at h
  rcases h with rfl | rfl | rfl | rfl <;> cases hwritten <;> simp

/-- What a login writes it sets, for the life time of sessions. -/
theorem exists_set_of_mem_loginCalls {p : Principal} {ttl : ℤ} {c : Call} {key : String}
    (h : c ∈ loginCalls p ttl) (hwritten : c.written? = some key) : ∃ value, c = .set key value ttl := by
  simp only [loginCalls, List.mem_cons, List.not_mem_nil, or_false] at h
  rcases h with rfl | rfl | rfl <;> cases hwritten <;> exact ⟨_, rfl⟩

/-- A login sets its session and the two entries of the last login. -/
theorem mem_loginCalls (p : Principal) (ttl : ℤ) : .set p.token (.obj p.fields) ttl ∈ loginCalls p ttl ∧
    .set tokenKey (.str p.token) ttl ∈ loginCalls p ttl ∧
    .set userKey (.int p.userId) ttl ∈ loginCalls p ttl := by
  simp [loginCalls]

/-- A login writes each of its entries once. -/
theorem eq_of_mem_loginCalls {p : Principal} {ttl : ℤ} {c d : Call} (hpoint : '.' ∈ p.token.toList)
    (hc : c ∈ loginCalls p ttl) (hd : d ∈ loginCalls p ttl) (hkey : c.written? = d.written?) : c = d := by
  obtain ⟨hnoToken, hnoUser⟩ := Store.ne_of_point hpoint
  have hkeys : tokenKey ≠ userKey := by decide
  have hnodup : ((loginCalls p ttl).map Call.written?).Nodup := by
    simp [loginCalls, Call.written?, hnoToken, hnoUser, hkeys]
  exact List.inj_on_of_nodup_map hnodup hc hd hkey

end Script

/-! ### Two scripts side by side -/

/-- Who makes a call. -/
inductive Side
  | logout
  | login
deriving DecidableEq

/-- A call that was made, with who made it and when. -/
abbrev Event := Side × TimedCall

/-- Scripts that are under way, and the store that they share. -/
structure Race where
  store : Store
  scripts : Side → Script

namespace Race

/-- One side makes its next call. -/
inductive Step : Race → Event → Race → Prop
  | serves {a : Race} {side : Side} {now : WallTime} {c : Call} {rest : List (Option Json) → Script}
      {given : List (Option Json)} {next : Store} (ready : a.scripts side = .call c rest)
      (served : a.store.serve now c = .ok (given, next)) :
      Step a (side, now, c) ⟨next, Function.update a.scripts side (rest given)⟩

/-- Some calls are made, one after the other. -/
inductive Runs : Race → List Event → Race → Prop
  | nil {a : Race} : Runs a [] a
  | cons {a b c : Race} {e : Event} {trace : List Event} (step : Step a e b) (rest : Runs b trace c) :
      Runs a (e :: trace) c

/-- The calls of one side. -/
def callsOf (side : Side) (trace : List Event) : List Call :=
  (trace.filter (·.1 = side)).map (·.2.2)

/-- The last call that has written the entry of a key. -/
def lastEvent? (trace : List Event) (key : String) : Option Event :=
  trace.reverse.find? fun e => e.2.2.written? = some key

variable {a b : Race} {trace : List Event} {side : Side} {key : String} {later : WallTime}

/-! ### What a race leaves in the store -/

/-- The last call that has written a key is among the later ones, or else it is the first. -/
theorem lastEvent?_cons (e : Event) (trace : List Event) (key : String) :
    lastEvent? (e :: trace) key =
      (lastEvent? trace key).or (if e.2.2.written? = some key then some e else none) := by
  unfold lastEvent?
  rw [List.reverse_cons, List.find?_append, List.find?_singleton]
  simp only [decide_eq_true_eq]

/-- The last call that has written a key is one of the calls, and has written it. -/
theorem of_lastEvent? {e : Event} (h : lastEvent? trace key = some e) :
    e ∈ trace ∧ e.2.2.written? = some key := by
  unfold lastEvent? at h
  have hwritten := List.find?_some h
  exact ⟨List.mem_reverse.mp (List.mem_of_find?_eq_some h), of_decide_eq_true hwritten⟩

/-- A key that one of the calls has written has been written last by one of them. -/
theorem exists_lastEvent? {e : Event} (h : e ∈ trace) (hwritten : e.2.2.written? = some key) :
    ∃ last, lastEvent? trace key = some last := by
  rw [← Option.isSome_iff_exists]
  unfold lastEvent?
  rw [List.find?_isSome]
  exact ⟨e, List.mem_reverse.mpr h, decide_eq_true hwritten⟩

/-- What the store gives after a race is due to the last call that has written the key, or else was there
before. -/
theorem peek_of_runs (h : Runs a trace b)
    (hexact : ∀ e ∈ trace, ∀ key value ttl, e.2.2 = .set key value ttl → value.IsExact)
    (hle : ∀ e ∈ trace, e.2.1.micros ≤ later.micros) (key : String) :
    b.store.peek later key =
      (lastEvent? trace key).elim (a.store.peek later key) fun e => due [e.2] later key := by
  induction h with
  | nil => rfl
  | @cons a mid b e trace step rest ih =>
    rw [List.forall_mem_cons] at hexact hle
    rw [ih hexact.2 hle.2, lastEvent?_cons]
    cases lastEvent? trace key with
    | some last => rfl
    | none =>
      cases step with
      | serves ready served =>
        rw [Option.none_or, Option.elim_none, Store.peek_of_serve served hexact.1 hle.1]
        split_ifs <;> rfl

/-! ### Which calls are made -/

/-- A race that goes on after another is one race. -/
theorem Runs.append {c : Race} {more : List Event} (h : Runs a trace b) (hmore : Runs b more c) :
    Runs a (trace ++ more) c := by
  induction h with
  | nil => exact hmore
  | cons step _ ih => exact .cons step (ih hmore)

/-- A side makes only calls that its script may make. -/
theorem only_of_runs {P : Call → Prop} (side : Side) (h : Runs a trace b) (honly : (a.scripts side).Only P) :
    ∀ e ∈ trace, e.1 = side → P e.2.2 := by
  induction h with
  | nil => simp
  | cons step _ ih =>
    cases step with
    | @serves other now c next given store ready served =>
      rw [List.forall_mem_cons]
      by_cases hside : other = side
      · subst hside
        rw [ready] at honly
        cases honly with
        | call first others => exact ⟨fun _ => first, ih (by simpa using others given)⟩
      · exact ⟨fun hsame => absurd hsame hside, ih (by simpa [Function.update_of_ne (Ne.symm hside)])⟩

/-- A script that does not mind the answers makes its calls in their order. -/
theorem callsOf_of_runs {calls : List Call} (side : Side) (h : Runs a trace b)
    (hscript : a.scripts side = .ofCalls calls) :
    ∃ rest, calls = callsOf side trace ++ rest ∧ b.scripts side = .ofCalls rest := by
  induction h generalizing calls with
  | nil => exact ⟨calls, rfl, hscript⟩
  | cons step _ ih =>
    cases step with
    | @serves other now c next given store ready served =>
      by_cases hside : other = side
      · subst hside
        cases calls with
        | nil => cases ready.symm.trans hscript
        | cons first calls =>
          cases ready.symm.trans hscript
          obtain ⟨left, rfl, hleft⟩ := @ih calls (by simp)
          exact ⟨left, by simp [callsOf], hleft⟩
      · obtain ⟨left, rfl, hleft⟩ := ih (by simpa [Function.update_of_ne (Ne.symm hside)])
        exact ⟨left, by simp [callsOf, hside], hleft⟩

/-- A side that is done in the end makes its next call at some point; up to it only the other side makes
calls, and after it the side goes on with the answer. -/
theorem exists_next_call {c : Call} {next : List (Option Json) → Script} (side : Side) (h : Runs a trace b)
    (hready : a.scripts side = .call c next) (hdone : b.scripts side = .done) :
    ∃ before now after mid given m, trace = before ++ (side, now, c) :: after ∧
      (∀ e ∈ before, e.1 ≠ side) ∧ Runs a before mid ∧ mid.store.serve now c = .ok (given, m.store) ∧
      m.scripts side = next given ∧ Runs a (before ++ [(side, now, c)]) m ∧ Runs m after b := by
  induction h with
  | nil => cases hready.symm.trans hdone
  | @cons a _ _ _ _ step rest ih =>
    cases step with
    | @serves other now c' next' given store ready served =>
      by_cases hside : other = side
      · subst hside
        cases ready.symm.trans hready
        exact ⟨[], now, _, a, given, _, rfl, by simp, .nil, served, by simp,
          .cons (.serves ready served) .nil, rest⟩
      · obtain ⟨before, t, after, mid, given', m, rfl, hothers, hbefore, hserve, hscript, hupTo, hafter⟩ :=
          ih (by simpa [Function.update_of_ne (Ne.symm hside)]) hdone
        refine ⟨(other, now, c') :: before, t, after, mid, given', m, rfl, ?_,
          .cons (.serves ready served) hbefore, hserve, hscript, .cons (.serves ready served) hupTo, hafter⟩
        rw [List.forall_mem_cons]
        exact ⟨hside, hothers⟩

end Race

end Backoffice.Session
