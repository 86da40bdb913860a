import Mathlib
import Backoffice.Account.Access
import Backoffice.Directory.Tables
import Backoffice.Proofs.Calendar.Seconds
import Backoffice.Proofs.Calendar.Spans
import Backoffice.Proofs.Fields
import Backoffice.Proofs.Json.RoundTrip
import Backoffice.Proofs.Outcome

/-!
# What a store answers

`Store.peek` is the value that a store gives for a key at a time.  It is read from what the store keeps
there, which is the value or its text together with its time (`Store.kept?`).  Each operation is described by
what it does to these answers, for both kinds of store: what is set is given until its time is up, what is
deleted is not given any more, and reading, although it may drop a value, changes no later answer.
-/

namespace Backoffice.Session

/-! ### Entries by key -/

/-- Removing the entries of a key takes nothing from the other keys. -/
theorem lookup_filter_ne {α : Type} (entries : List (String × α)) (key other : String) :
    (entries.filter (·.1 ≠ other)).lookup key = if key = other then none else entries.lookup key := by
  rw [lookup_filter fun name => decide (name ≠ other)]
  by_cases h : key = other
  · rw [if_pos h, if_neg (by simpa using h)]
  · rw [if_neg h, if_pos (by simpa using h)]

/-- The keys in the cache are apart if the keys are. -/
theorem Shared.cacheKey_inj {key other : String} : Shared.cacheKey key = Shared.cacheKey other ↔ key = other := by
  unfold Shared.cacheKey
  exact String.append_right_inj _

/-- What a store keeps under a key: a value in memory, or a text in the cache. -/
inductive Kept
  | value (e : Entry)
  | text (c : CachedText)

/-- The value that is kept, for which a text of the cache is read. -/
def Kept.json? : Kept → Option Json
  | value e => some e.value
  | text c => Json.parse? c.text.toList

namespace Store

/-- The value that the store gives for a key at a time. -/
def peek (store : Store) (now : WallTime) (key : String) : Option Json :=
  (store.get now key).1

/-- What the store keeps under a key, unless its time is up. -/
def kept? (store : Store) (now : WallTime) (key : String) : Option Kept :=
  match store with
  | .memory m =>
    ((m.entries.lookup key).filter fun e => now.micros < e.expires.micros).map .value
  | .shared s =>
    ((s.texts.lookup (Shared.cacheKey key)).filter fun c => (now.micros : Int) < c.gone).map .text

variable {store next : Store} {now later : WallTime} {key other token : String} {value : Json} {ttl : ℤ}

/-! ### Reading, deleting and setting -/

/-- A new store gives nothing. -/
theorem peek_start (cacheAnswers : Bool) (now : WallTime) (key : String) :
    (start cacheAnswers).peek now key = none := by
  cases cacheAnswers <;> rfl

/-- The value in memory, until its time is up. -/
theorem peek_memory (m : Memory) (now : WallTime) (key : String) :
    (memory m).peek now key =
      (m.entries.lookup key).bind fun e =>
        if (now.micros : ℤ) < e.expires.micros then some e.value else none := by
  change (m.get now key).1 = _
  unfold Memory.get
  rcases m.entries.lookup key with _ | e
  · rfl
  · simp only [Option.bind_some]
    by_cases h : e.expires.micros ≤ now.micros
    · rw [if_pos h, if_neg (by omega)]
    · rw [if_neg h, if_pos (by omega)]

/-- The value in the cache, until its time is up. -/
theorem peek_shared (s : Shared) (now : WallTime) (key : String) :
    (shared s).peek now key =
      (s.texts.lookup (Shared.cacheKey key)).bind fun c =>
        if (now.micros : ℤ) < c.gone then Json.parse? c.text.toList else none := by
  unfold peek get Shared.get Shared.send Command.run
  dsimp only
  cases s.texts.lookup (Shared.cacheKey key) with
  | none => rfl
  | some c =>
    simp only [Option.bind_some]
    by_cases h : c.gone ≤ now.micros
    · rw [if_pos h, if_neg (by omega)]
      rfl
    · rw [if_neg h, if_pos (by omega)]
      rfl

/-- The value that the store gives for a key is the one that it keeps there. -/
theorem peek_eq_bind (store : Store) (now : WallTime) (key : String) :
    store.peek now key = (store.kept? now key).bind Kept.json? := by
  cases store with
  | memory m =>
    rw [peek_memory]
    unfold kept?
    dsimp only
    cases m.entries.lookup key with
    | none => rfl
    | some e =>
      by_cases hnow : now.micros < e.expires.micros
      · simp [Option.filter, hnow, Kept.json?]
      · simp [Option.filter, hnow]
  | shared s =>
    rw [peek_shared]
    unfold kept?
    dsimp only
    cases s.texts.lookup (Shared.cacheKey key) with
    | none => rfl
    | some c =>
      by_cases hnow : (now.micros : ℤ) < c.gone
      · simp [Option.filter, hnow, Kept.json?]
      · simp [Option.filter, hnow]

/-- What is deleted is not kept any more, and everything else is. -/
theorem kept?_delete (store : Store) (now later : WallTime) (other key : String) :
    (store.delete now other).kept? later key = if key = other then none else store.kept? later key := by
  cases store with
  | memory m =>
    change (memory (m.delete other)).kept? later key = _
    unfold kept? Memory.delete
    simp only [lookup_filter_ne]
    split_ifs <;> rfl
  | shared s =>
    change (shared ⟨s.texts.filter (·.1 ≠ Shared.cacheKey other), _⟩).kept? later key = _
    unfold kept?
    simp only [lookup_filter_ne, Shared.cacheKey_inj]
    split_ifs <;> rfl

/-- Reading changes nothing whose time is not up: if an entry is dropped, its own time was up. -/
theorem kept?_get (store : Store) (h : now.micros ≤ later.micros) (other key : String) :
    (store.get now other).2.kept? later key = store.kept? later key := by
  cases store with
  | memory m =>
    unfold get Memory.get
    dsimp only
    cases hentry : m.entries.lookup other with
    | none => rfl
    | some e =>
      by_cases hover : e.expires.micros ≤ now.micros
      · simp only [if_pos hover]
        unfold kept? Memory.delete
        simp only [lookup_filter_ne]
        by_cases hkey : key = other
        · have hdropped : (some e).filter (fun e => later.micros < e.expires.micros) = none := by
            simp [hover.trans h]
          rw [if_pos hkey, hkey, hentry, hdropped]
          rfl
        · rw [if_neg hkey]
      · simp only [if_neg hover]
  | shared s =>
    unfold get Shared.get Shared.send Command.run
    dsimp only
    cases s.texts.lookup (Shared.cacheKey other) <;> rfl

/-- What is deleted is not given any more. -/
theorem peek_delete (store : Store) (now later : WallTime) (other key : String) :
    (store.delete now other).peek later key = if key = other then none else store.peek later key := by
  rw [peek_eq_bind, peek_eq_bind, kept?_delete]
  split_ifs <;> rfl

/-- Reading a key changes no later answer. -/
theorem peek_get (store : Store) (h : now.micros ≤ later.micros) (other key : String) :
    (store.get now other).2.peek later key = store.peek later key := by
  rw [peek_eq_bind, peek_eq_bind, kept?_get store h]

/-- What is set is given until its time is up. -/
theorem peek_set (hset : store.set now other value ttl = .ok next) (hexact : value.IsExact)
    (later : WallTime) (key : String) :
    next.peek later key =
      if key = other then
        if (later.micros : ℤ) < now.micros + secondsSpan (keptSeconds ttl) then some value else none
      else store.peek later key := by
  cases store with
  | memory m =>
    change (m.set now other value ttl).map memory = .ok next at hset
    obtain ⟨m', hm', rfl⟩ := map_eq_ok_iff.mp hset
    unfold Memory.set at hm'
    obtain ⟨expires, hexpires, hm'⟩ := bind_eq_ok_iff.mp hm'
    obtain ⟨-, -, hmicros⟩ := WallTime.after_eq_ok_iff.mp hexpires
    rw [pure_eq_ok_iff] at hm'
    rw [← hm', peek_memory, peek_memory, Memory.delete, lookup_cons_eq, lookup_filter_ne, ← hmicros]
    split_ifs with hkey hover
    · rw [Option.bind_some, if_pos hover]
    · rw [Option.bind_some, if_neg hover]
    · rfl
  | shared s =>
    cases hset
    change (shared ⟨(Shared.cacheKey other, ⟨value.render .readable, _⟩) ::
      s.texts.filter (·.1 ≠ Shared.cacheKey other), _⟩).peek later key = _
    rw [peek_shared, peek_shared, lookup_cons_eq, lookup_filter_ne]
    simp only [Shared.cacheKey_inj]
    split_ifs with hkey hover
    · rw [Option.bind_some, if_pos hover]
      unfold Json.render
      rw [String.toList_ofList, Json.parse?_write Json.Style.isRegular_readable hexact]
    · rw [Option.bind_some, if_neg hover]
    · rfl

/-! ### Sessions -/

/-- A key with a point is none of the keys of the last login. -/
theorem ne_of_point (h : '.' ∈ key.toList) : key ≠ tokenKey ∧ key ≠ userKey := by
  constructor
  · rintro rfl
    revert h
    decide
  · rintro rfl
    revert h
    decide

/-- The session under a key that is not blank is the object that the store gives for it. -/
theorem principal_eq_ok_iff {fields : List (String × Json)} :
    (store.principal now token).1 = .ok fields ↔
      Text.strip token ≠ "" ∧ store.peek now (Text.strip token) = some (.obj fields) := by
  unfold principal peek
  dsimp only
  split_ifs with hblank
  · simp [hblank]
  · rcases hget : store.get now (Text.strip token) with ⟨_ | v, next⟩
    · simp
    · cases v <;> simp [hblank]

/-- Two stores that give the same value for a token without its blanks lead it to the same session. -/
theorem principal_congr {store' : Store}
    (h : store.peek now (Text.strip token) = store'.peek now (Text.strip token)) :
    (store.principal now token).1 = (store'.principal now token).1 := by
  unfold principal
  dsimp only
  split_ifs
  · rfl
  · unfold peek at h
    generalize store.get now (Text.strip token) = answer at h ⊢
    generalize store'.get now (Text.strip token) = answer' at h ⊢
    obtain ⟨value, next⟩ := answer
    obtain ⟨value', next'⟩ := answer'
    obtain rfl : value = value' := h
    rcases value with _ | v
    · rfl
    · cases v <;> rfl

/-- A token leads to no session if the store gives nothing for it. -/
theorem principal_eq_error (h : store.peek now (Text.strip token) = none) :
    (store.principal now token).1 = .error .sessionExpired := by
  have hempty := principal_congr (h.trans (peek_start false now (Text.strip token)).symm)
  rw [hempty]
  unfold principal
  dsimp only
  split_ifs <;> rfl

/-- Looking for a session changes no later answer. -/
theorem peek_principal (store : Store) (h : now.micros ≤ later.micros) (token key : String) :
    (store.principal now token).2.peek later key = store.peek later key := by
  have hget := peek_get store h (Text.strip token) key
  unfold principal
  dsimp only
  split_ifs
  · rfl
  · rw [← hget]
    rcases store.get now (Text.strip token) with ⟨_ | v, next⟩
    · rfl
    · cases v <;> rfl

/-- A login opens the session of its token for the life time of sessions, and leaves the other sessions
alone. -/
theorem peek_login {principal : Principal} (hlogin : store.login now principal ttl = .ok next)
    (hexact : (Json.obj principal.fields).IsExact) (hnumber : (Json.int principal.userId).IsExact)
    (hpoint : '.' ∈ key.toList) (later : WallTime) :
    next.peek later key =
      if key = principal.token then
        if (later.micros : ℤ) < now.micros + secondsSpan (keptSeconds ttl) then
          some (.obj principal.fields)
        else none
      else store.peek later key := by
  obtain ⟨hlast, huser⟩ := ne_of_point hpoint
  unfold login at hlogin
  obtain ⟨first, hfirst, hlogin⟩ := bind_eq_ok_iff.mp hlogin
  obtain ⟨second, hsecond, hthird⟩ := bind_eq_ok_iff.mp hlogin
  rw [peek_set hthird hnumber, if_neg huser, peek_set hsecond (.str _), if_neg hlast,
    peek_set hfirst hexact]

/-- An object that is in the store after a login is the session of the login, or was there before. -/
theorem of_peek_login_obj {principal : Principal} {fields : List (String × Json)}
    (hlogin : store.login now principal ttl = .ok next) (hexact : (Json.obj principal.fields).IsExact)
    (hnumber : (Json.int principal.userId).IsExact) (h : next.peek later key = some (.obj fields)) :
    fields = principal.fields ∨ store.peek later key = some (.obj fields) := by
  unfold login at hlogin
  obtain ⟨first, hfirst, hlogin⟩ := bind_eq_ok_iff.mp hlogin
  obtain ⟨second, hsecond, hthird⟩ := bind_eq_ok_iff.mp hlogin
  rw [peek_set hthird hnumber, peek_set hsecond (.str _), peek_set hfirst hexact] at h
  -- under the two names of the last login there are no objects
  split_ifs at h
  · cases h
  · cases h
  · cases h
    exact .inl rfl
  · exact .inr h

/-- The store after a logout has deleted the entry of its token and has read the token of the last login. -/
def withoutToken (store : Store) (now : WallTime) (token : String) : Store :=
  ((store.delete now token).get now tokenKey).2

/-- What a logout reads of the last login, after it has deleted the entry of its token. -/
theorem peek_last_of_delete (store : Store) (now : WallTime) (token : String) :
    ((store.delete now token).get now tokenKey).1 =
      if tokenKey = token then none else store.peek now tokenKey :=
  peek_delete store now now token tokenKey

/-- A logout of the last login also deletes the entries of the last login. -/
theorem logout_of_last (htoken : token ≠ tokenKey) (hlast : store.peek now tokenKey = some (.str token)) :
    store.logout now token = ((store.withoutToken now token).delete now tokenKey).delete now userKey := by
  have hread := peek_last_of_delete store now token
  rw [if_neg (Ne.symm htoken), hlast] at hread
  unfold logout withoutToken
  generalize (store.delete now token).get now tokenKey = answer at hread
  obtain ⟨last, next⟩ := answer
  obtain rfl : last = some (.str token) := hread
  simp only [if_true]

/-- A logout of any other key deletes nothing else. -/
theorem logout_of_other (hother : token ≠ tokenKey → store.peek now tokenKey ≠ some (.str token)) :
    store.logout now token = store.withoutToken now token := by
  have hread := peek_last_of_delete store now token
  unfold logout withoutToken
  generalize (store.delete now token).get now tokenKey = answer at hread
  obtain ⟨_ | v, next⟩ := answer
  · rfl
  · cases v with
    | str last =>
      have hne : last ≠ token := by
        rintro rfl
        dsimp only at hread
        split_ifs at hread with hkey
        exact hother (Ne.symm hkey) hread.symm
      simp only [if_neg hne]
    | _ => rfl

/-- Beside the entry of its token a logout leaves everything, up to the entries of the last login. -/
theorem peek_withoutToken (store : Store) (h : now.micros ≤ later.micros) (token key : String) :
    (store.withoutToken now token).peek later key = if key = token then none else store.peek later key := by
  unfold withoutToken
  rw [peek_get _ h, peek_delete]

/-- A logout of the last login takes away the entry of its token and those of the last login. -/
theorem peek_logout_of_last (h : now.micros ≤ later.micros) (htoken : token ≠ tokenKey)
    (hlast : store.peek now tokenKey = some (.str token)) (key : String) :
    (store.logout now token).peek later key =
      if key = token ∨ key = tokenKey ∨ key = userKey then none else store.peek later key := by
  rw [logout_of_last htoken hlast, peek_delete, peek_delete, peek_withoutToken store h]
  split_ifs <;> grind

/-- A logout of any other key takes away the entry of this key and nothing else. -/
theorem peek_logout_of_other (h : now.micros ≤ later.micros)
    (hother : token ≠ tokenKey → store.peek now tokenKey ≠ some (.str token)) (key : String) :
    (store.logout now token).peek later key = if key = token then none else store.peek later key := by
  rw [logout_of_other hother, peek_withoutToken store h]

/-- A logout ends the session of its token, and leaves the other sessions alone. -/
theorem peek_logout (store : Store) (h : now.micros ≤ later.micros) (token : String)
    (hpoint : '.' ∈ key.toList) :
    (store.logout now token).peek later key = if key = token then none else store.peek later key := by
  obtain ⟨hnoToken, hnoUser⟩ := ne_of_point hpoint
  by_cases hlast : token ≠ tokenKey ∧ store.peek now tokenKey = some (.str token)
  · rw [peek_logout_of_last h hlast.1 hlast.2]
    simp only [hnoToken, hnoUser, or_false]
  · exact peek_logout_of_other h (fun htoken hnamed => hlast ⟨htoken, hnamed⟩) key

/-! ### Values that were there before

What reading and deleting leave was there before, whatever the clock says: unlike the lemmas above these
compare no times. -/

/-- Deleting gives no new values. -/
theorem peek_of_peek_delete (h : (store.delete now other).peek later key = some value) :
    key ≠ other ∧ store.peek later key = some value := by
  rw [peek_delete] at h
  split_ifs at h with hkey
  exact ⟨hkey, h⟩

/-- Reading a key gives no new values. -/
theorem peek_of_peek_get (h : (store.get now other).2.peek later key = some value) :
    store.peek later key = some value := by
  cases store with
  | memory m =>
    unfold get Memory.get at h
    dsimp only at h
    split at h
    · exact h
    · split at h
      · have hdeleted : ((memory m).delete now other).peek later key = some value := h
        exact (peek_of_peek_delete hdeleted).2
      · exact h
  | shared s =>
    unfold get Shared.get Shared.send Command.run at h
    dsimp only at h
    rw [peek_shared] at h ⊢
    split at h <;> exact h

/-- Looking for a session gives no new values. -/
theorem peek_of_peek_principal (h : (store.principal now token).2.peek later key = some value) :
    store.peek later key = some value := by
  unfold principal at h
  dsimp only at h
  split_ifs at h
  · exact h
  · have hread : (store.get now (Text.strip token)).2.peek later key = some value := by
      rcases hget : store.get now (Text.strip token) with ⟨_ | v, next⟩
      · rwa [hget] at h
      · rw [hget] at h
        cases v <;> exact h
    exact peek_of_peek_get hread

/-- A logout gives no new values, and none of its own token. -/
theorem peek_of_peek_logout (h : (store.logout now token).peek later key = some value) :
    key ≠ token ∧ store.peek later key = some value := by
  have hread : ((store.delete now token).get now tokenKey).2.peek later key = some value := by
    unfold logout at h
    rcases hget : (store.delete now token).get now tokenKey with ⟨_ | v, next⟩
    · rwa [hget] at h
    · rw [hget] at h
      cases v with
      | str last =>
        simp only [] at h
        split_ifs at h
        · exact (peek_of_peek_delete (peek_of_peek_delete h).2).2
        · exact h
      | _ => exact h
  exact peek_of_peek_delete (peek_of_peek_get hread)

end Store

end Backoffice.Session

namespace Backoffice

/-- The session of a user with a number that fits 64 bits is read back as it was written. -/
theorem Principal.isExact_fields {p : Principal} (h : p.userId.natAbs < 2 ^ 64) :
    (Json.obj p.fields).IsExact := by
  have hexpires := p.expires.natAbs_unixTimestamp_lt
  refine .obj ?_ fun f hf => ?_
  · simp [fields]
  · simp only [fields, List.mem_cons, List.not_mem_nil, or_false] at hf
    rcases hf with rfl | rfl | rfl | rfl | rfl | rfl | rfl | rfl
    · exact .int_of_lt h
    · exact .str _
    · exact .str _
    · cases p.name
      · exact .null
      · exact .str _
    · exact .str _
    · exact .str _
    · exact .str _
    · exact .int_of_lt (by omega)

/-- A principal with a number that fits the column of a database is read back from either store as it was
written. -/
theorem Principal.isExact_of_fitsWord (p : Principal) (h : fitsWord p.userId = true) :
    (Json.obj p.fields).IsExact ∧ (Json.int p.userId).IsExact := by
  have hsmall : p.userId.natAbs < 2 ^ 64 := by
    unfold fitsWord wordLimit at h
    simp only [Bool.and_eq_true, decide_eq_true_eq] at h
    omega
  exact ⟨Principal.isExact_fields hsmall, .int_of_lt hsmall⟩

end Backoffice
