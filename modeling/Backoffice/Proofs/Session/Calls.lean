import Mathlib
import Backoffice.Proofs.Json.Documents
import Backoffice.Proofs.Session.Reads

/-!
# Sequences of calls

What a session store answers is told by the calls alone: a key has the value that it was set to last,
until the time of that value is up, and none after the key was deleted (`due`).  A store in memory drops
what is over when it is read, and a shared cache drops it by itself and keeps texts in place of values;
on calls in the order of time neither can be told from the other, since both answer what is due
(`Store.answers_start`).
-/

namespace Backoffice.Session

/-- A call to a session store. -/
inductive Call
  | get (key : String)
  /-- Keeps a value for some seconds. -/
  | set (key : String) (value : Json) (ttl : ℤ)
  | delete (key : String)

/-- A call with its time. -/
abbrev TimedCall := WallTime × Call

/-- The key that a call sets or deletes. -/
def Call.written? : Call → Option String
  | .get _ => none
  | .set key _ _ => some key
  | .delete key => some key

/-! ### What is due -/

/-- The time, in microseconds, from which on a value that was set for some seconds is over: it is kept for
one second at least. -/
def expiry (t : WallTime) (ttl : ℤ) : ℤ :=
  t.micros + max ttl 1 * secondMicros

/-- The last call that set or deleted a key. -/
def lastWrite? (past : List TimedCall) (key : String) : Option TimedCall :=
  past.reverse.find? fun c => c.2.written? = some key

/-- The value that is due under a key after some calls. -/
def due (past : List TimedCall) (now : WallTime) (key : String) : Option Json :=
  match lastWrite? past key with
  | some (t, .set _ value ttl) => if (now.micros : ℤ) < expiry t ttl then some value else none
  | _ => none

/-- The answer that is due to a call after some others; only reading has one. -/
def dueAnswer (past : List TimedCall) (now : WallTime) : Call → List (Option Json)
  | .get key => [due past now key]
  | .set _ _ _ => []
  | .delete _ => []

/-- The answers that are due to calls that follow some others. -/
def dueAnswers (past : List TimedCall) : List TimedCall → List (Option Json)
  | [] => []
  | c :: calls => dueAnswer past c.1 c.2 ++ dueAnswers (past ++ [c]) calls

/-- The calls come in the order of time, and what is set is neither a number with a point nor a string
that is no text, nor does it contain such; it is a value of a JSON text, and is over before the calendar
ends. -/
structure IsOrderly (calls : List TimedCall) : Prop where
  inOrder : calls.Pairwise fun c d => c.1.micros ≤ d.1.micros
  isPlain : ∀ t key value ttl, (t, .set key value ttl) ∈ calls → value.IsPlain
  isDocument : ∀ t key value ttl, (t, .set key value ttl) ∈ calls → value.IsDocument
  inCalendar : ∀ t key value ttl, (t, .set key value ttl) ∈ calls → expiry t ttl < calendarMicros

/-- One more call is the last one that wrote its own key. -/
theorem lastWrite?_append_singleton (past : List TimedCall) (c : TimedCall) (key : String) :
    lastWrite? (past ++ [c]) key = if c.2.written? = some key then some c else lastWrite? past key := by
  unfold lastWrite?
  rw [List.reverse_append, List.reverse_singleton, List.singleton_append]
  by_cases hkey : c.2.written? = some key
  · rw [if_pos hkey, List.find?_cons_of_pos (by simpa using hkey)]
  · rw [if_neg hkey, List.find?_cons_of_neg (by simpa using hkey)]

/-- One more call alone decides what is due under the key that it writes. -/
theorem due_append_of_eq {c : TimedCall} {key : String} (h : c.2.written? = some key)
    (past : List TimedCall) (later : WallTime) : due (past ++ [c]) later key = due [c] later key := by
  unfold due
  rw [lastWrite?_append_singleton, ← List.nil_append [c], lastWrite?_append_singleton, if_pos h, if_pos h]

/-- One more call leaves what is due under the other keys. -/
theorem due_append_of_ne {c : TimedCall} {key : String} (h : c.2.written? ≠ some key)
    (past : List TimedCall) (later : WallTime) : due (past ++ [c]) later key = due past later key := by
  unfold due
  rw [lastWrite?_append_singleton, if_neg h]

/-- A call that sets a key alone makes its value due, until the time of the value is up. -/
theorem due_set (t : WallTime) (key : String) (value : Json) (ttl : ℤ) (later : WallTime) :
    due [(t, .set key value ttl)] later key =
      if (later.micros : ℤ) < expiry t ttl then some value else none := by
  simp [due, lastWrite?, Call.written?]

/-- After a call that deletes a key nothing is due. -/
theorem due_delete (t : WallTime) (key : String) (later : WallTime) :
    due [(t, .delete key)] later key = none := by
  simp [due, lastWrite?, Call.written?]

namespace Store

/-! ### Calls to a store -/

/-- Serves a call: its answer, if it reads, and the store after it. -/
def serve (store : Store) (now : WallTime) : Call → Except Overflow (List (Option Json) × Store)
  | .get key => .ok ([(store.get now key).1], (store.get now key).2)
  | .set key value ttl => (store.set now key value ttl).map fun next => ([], next)
  | .delete key => .ok ([], store.delete now key)

/-- The answers of the store to some calls, one after the other. -/
def answers (store : Store) : List TimedCall → Except Overflow (List (Option Json))
  | [] => .ok []
  | (now, c) :: calls => do
    let (given, next) ← store.serve now c
    let more ← next.answers calls
    return given ++ more

/-- After some calls the store gives what is due, from the last of them on. -/
def GivesDue (store : Store) (past : List TimedCall) : Prop :=
  ∀ later key, (∀ c ∈ past, c.1.micros ≤ later.micros) → store.peek later key = due past later key

variable {store : Store} {past : List TimedCall} {now : WallTime}

/-- A value can be set if it is over before the calendar ends. -/
theorem exists_set_of_expiry_lt {ttl : ℤ} (h : expiry now ttl < calendarMicros) (store : Store)
    (key : String) (value : Json) : ∃ next, store.set now key value ttl = .ok next := by
  cases store with
  | shared s => exact ⟨_, rfl⟩
  | memory m =>
    have hexpires : ∃ expires, now.after (secondsSpan (keptSeconds ttl)) = .ok expires := by
      refine WallTime.exists_after ?_ h
      have hkept : 0 ≤ keptSeconds ttl := le_trans zero_le_one (le_max_right ttl 1)
      exact Int.mul_nonneg hkept (Int.natCast_nonneg secondMicros)
    obtain ⟨expires, hexpires⟩ := hexpires
    refine ⟨.memory ⟨(key, ⟨value, expires⟩) :: (m.delete key).entries⟩, ?_⟩
    have hset : m.set now key value ttl = .ok ⟨(key, ⟨value, expires⟩) :: (m.delete key).entries⟩ := by
      unfold Memory.set
      rw [hexpires]
      rfl
    exact map_eq_ok_iff.mpr ⟨_, hset, rfl⟩

/-- A call that sets a value is served if the value is over before the calendar ends. -/
theorem exists_serve_set {ttl : ℤ} (h : expiry now ttl < calendarMicros) (store : Store) (key : String)
    (value : Json) : ∃ next, store.serve now (.set key value ttl) = .ok ([], next) := by
  obtain ⟨next, hset⟩ := exists_set_of_expiry_lt h store key value
  exact ⟨next, map_eq_ok_iff.mpr ⟨next, hset, rfl⟩⟩

/-- A call that is served decides what the store gives under the key that it writes, and nothing else. -/
theorem peek_of_serve {next : Store} {c : Call} {given : List (Option Json)} {later : WallTime}
    (hserve : store.serve now c = .ok (given, next))
    (hexact : ∀ key value ttl, c = .set key value ttl → value.IsExact)
    (hle : now.micros ≤ later.micros) (key : String) :
    next.peek later key =
      if c.written? = some key then due [(now, c)] later key else store.peek later key := by
  have hwritten : ∀ other : String, some other = some key ↔ key = other := by
    simp only [Option.some.injEq, eq_comm, implies_true]
  cases c with
  | get other =>
    cases hserve
    exact (peek_get store hle other key).trans (if_neg (Option.some_ne_none key).symm).symm
  | set other value ttl =>
    obtain ⟨next', hset, heq⟩ := map_eq_ok_iff.mp hserve
    cases heq
    simp only [Call.written?, hwritten]
    rw [peek_set hset (hexact other value ttl rfl)]
    by_cases hkey : key = other
    · rw [if_pos hkey, if_pos hkey, hkey, due_set]
      rfl
    · rw [if_neg hkey, if_neg hkey]
  | delete other =>
    cases hserve
    simp only [Call.written?, hwritten]
    rw [peek_delete]
    by_cases hkey : key = other
    · rw [if_pos hkey, if_pos hkey, hkey, due_delete]
    · rw [if_neg hkey, if_neg hkey]

/-- A store that gives what is due answers the next call as is due, and then still gives what is due. -/
theorem GivesDue.serve (hgives : store.GivesDue past) {c : Call}
    (horder : ∀ d ∈ past, d.1.micros ≤ now.micros)
    (hexact : ∀ key value ttl, c = .set key value ttl → value.IsExact)
    (hexpiry : ∀ key value ttl, c = .set key value ttl → expiry now ttl < calendarMicros) :
    ∃ next, store.serve now c = .ok (dueAnswer past now c, next) ∧ next.GivesDue (past ++ [(now, c)]) := by
  have hserve : ∃ next, store.serve now c = .ok (dueAnswer past now c, next) := by
    cases c with
    | get other =>
      have hanswer : (store.get now other).1 = due past now other := hgives now other horder
      refine ⟨(store.get now other).2, ?_⟩
      simp only [Store.serve, dueAnswer, hanswer]
    | set other value ttl => exact exists_serve_set (hexpiry other value ttl rfl) store other value
    | delete other => exact ⟨store.delete now other, rfl⟩
  obtain ⟨next, hserve⟩ := hserve
  refine ⟨next, hserve, fun later key hlater => ?_⟩
  rw [List.forall_mem_append, List.forall_mem_singleton] at hlater
  rw [peek_of_serve hserve hexact hlater.2, hgives later key hlater.1]
  split_ifs with hkey
  · rw [due_append_of_eq hkey]
  · rw [due_append_of_ne hkey]

/-- A store that gives what is due answers all further calls as is due. -/
theorem GivesDue.answers (hgives : store.GivesDue past) {calls : List TimedCall}
    (horderly : IsOrderly (past ++ calls)) : store.answers calls = .ok (dueAnswers past calls) := by
  induction calls generalizing store past with
  | nil => rfl
  | cons c calls ih =>
    obtain ⟨now, c⟩ := c
    have hmem : (now, c) ∈ past ++ (now, c) :: calls := by simp
    have horder : ∀ d ∈ past, d.1.micros ≤ now.micros := by
      intro d hd
      exact (List.pairwise_append.mp horderly.inOrder).2.2 d hd (now, c) List.mem_cons_self
    obtain ⟨next, hserve, hnext⟩ := hgives.serve horder (c := c)
      (fun key value ttl hc => Json.isExact_iff.mpr
        ⟨horderly.isPlain now key value ttl (hc ▸ hmem), horderly.isDocument now key value ttl (hc ▸ hmem)⟩)
      (fun key value ttl hc => horderly.inCalendar now key value ttl (hc ▸ hmem))
    have hrest : next.answers calls = .ok (dueAnswers (past ++ [(now, c)]) calls) := by
      refine ih hnext ?_
      rwa [List.append_assoc, List.singleton_append]
    simp only [Store.answers, hserve, ok_bind, hrest]
    rfl

end Store

end Backoffice.Session
