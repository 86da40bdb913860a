import Mathlib
import Backoffice.Proofs.Session.Reads

/-!
# The entries of the last login

Beside the sessions a store has two entries that all users share, the token of the last login and the
number of its user.  They are written and deleted one by one, but whatever is given of them belongs
together (`Store.IsLinked`): the token has a session, which is the one of this token and of this user, and
there is no number without a token.  A login links the entries anew, and a logout, which may be one of the
last login or of an older one, leaves them linked.
-/

namespace Backoffice.Session.Store

variable {store next : Store} {now later : WallTime} {key token : String} {value : Json} {ttl : ℤ}

/-- What the store gives later for a key it gives before: only time takes values away. -/
theorem peek_of_peek_later (hle : now.micros ≤ later.micros) (h : store.peek later key = some value) :
    store.peek now key = some value := by
  cases store with
  | memory m =>
    rw [peek_memory] at h ⊢
    obtain ⟨e, hentry, hgiven⟩ := Option.bind_eq_some_iff.mp h
    split_ifs at hgiven with hover
    rw [hentry, Option.bind_some, if_pos (by omega)]
    exact hgiven
  | shared s =>
    rw [peek_shared] at h ⊢
    obtain ⟨c, htext, hgiven⟩ := Option.bind_eq_some_iff.mp h
    split_ifs at hgiven with hover
    rw [htext, Option.bind_some, if_pos (by omega)]
    exact hgiven

/-! ### Linked entries -/

/-- If the store names the token of a last login then it has the session of this token, and the number
that it names is the one of the user of this session.  It names no number without a token. -/
structure IsLinked (store : Store) (now : WallTime) : Prop where
  session : ∀ value, store.peek now tokenKey = some value → ∃ p : Principal, value = .str p.token ∧
    store.peek now p.token = some (.obj p.fields) ∧ store.peek now userKey = some (.int p.userId)
  user : ∀ value, store.peek now userKey = some value → ∃ last, store.peek now tokenKey = some last

/-- A new store names nothing. -/
theorem isLinked_start (cacheAnswers : Bool) (now : WallTime) : (start cacheAnswers).IsLinked now where
  session value h := by
    rw [peek_start] at h
    cases h
  user value h := by
    rw [peek_start] at h
    cases h

/-- Whether the entries are linked is told by the answers of the store. -/
theorem IsLinked.congr (h : store.IsLinked now) (hsame : ∀ key, next.peek now key = store.peek now key) :
    next.IsLinked now where
  session value hvalue := by
    simp only [hsame] at hvalue ⊢
    exact h.session value hvalue
  user value hvalue := by
    simp only [hsame] at hvalue ⊢
    exact h.user value hvalue

/-- A login names its own token and its own user, for the life time of sessions. -/
theorem peek_login_last {principal : Principal} (hlogin : store.login now principal ttl = .ok next)
    (hnumber : (Json.int principal.userId).IsExact) (later : WallTime) :
    next.peek later tokenKey =
        (if (later.micros : ℤ) < now.micros + secondsSpan (keptSeconds ttl) then
          some (.str principal.token) else none) ∧
      next.peek later userKey =
        (if (later.micros : ℤ) < now.micros + secondsSpan (keptSeconds ttl) then
          some (.int principal.userId) else none) := by
  unfold login at hlogin
  obtain ⟨first, -, hlogin⟩ := bind_eq_ok_iff.mp hlogin
  obtain ⟨second, hsecond, hthird⟩ := bind_eq_ok_iff.mp hlogin
  have hkeys : tokenKey ≠ userKey := by decide
  rw [peek_set hthird hnumber, if_neg hkeys, peek_set hsecond (.str _), if_pos rfl,
    peek_set hthird hnumber, if_pos rfl]
  exact ⟨rfl, rfl⟩

/-- A login links the entries: all three are over at the same time. -/
theorem isLinked_login {principal : Principal} (hlogin : store.login now principal ttl = .ok next)
    (hexact : (Json.obj principal.fields).IsExact) (hnumber : (Json.int principal.userId).IsExact)
    (hpoint : '.' ∈ principal.token.toList) (later : WallTime) : next.IsLinked later := by
  obtain ⟨htoken, huser⟩ := peek_login_last hlogin hnumber later
  have hsession := peek_login hlogin hexact hnumber hpoint later
  rw [if_pos rfl] at hsession
  constructor
  · intro value hvalue
    rw [htoken] at hvalue
    split_ifs at hvalue with hover
    rw [if_pos hover] at huser hsession
    cases hvalue
    exact ⟨principal, rfl, hsession, huser⟩
  · intro value hvalue
    rw [huser] at hvalue
    split_ifs at hvalue with hover
    rw [if_pos hover] at htoken
    exact ⟨_, htoken⟩

/-- A logout of a token, be it the one of the last login or another, leaves the entries linked. -/
theorem IsLinked.logout (h : store.IsLinked later) (hle : now.micros ≤ later.micros)
    (hpoint : '.' ∈ token.toList) : (store.logout now token).IsLinked later := by
  obtain ⟨hnoToken, hnoUser⟩ := ne_of_point hpoint
  by_cases hlast : store.peek now tokenKey = some (.str token)
  · -- the last login is forgotten
    have hforgotten : ∀ key, key = tokenKey ∨ key = userKey →
        (store.logout now token).peek later key = none := by
      intro key hkey
      rw [peek_logout_of_last hle hnoToken hlast, if_pos (.inr hkey)]
    constructor
    · intro value hvalue
      rw [hforgotten tokenKey (.inl rfl)] at hvalue
      cases hvalue
    · intro value hvalue
      rw [hforgotten userKey (.inr rfl)] at hvalue
      cases hvalue
  · -- only the session of the token goes, and this is not the one of the last login
    have hkept : ∀ key, key ≠ token →
        (store.logout now token).peek later key = store.peek later key := by
      intro key hkey
      rw [peek_logout_of_other hle fun _ => hlast, if_neg hkey]
    constructor
    · intro value hvalue
      rw [hkept tokenKey (Ne.symm hnoToken)] at hvalue
      obtain ⟨p, rfl, hsession, huser⟩ := h.session value hvalue
      have hother : p.token ≠ token := by
        rintro rfl
        exact hlast (peek_of_peek_later hle hvalue)
      exact ⟨p, rfl, (hkept p.token hother).trans hsession, (hkept userKey (Ne.symm hnoUser)).trans huser⟩
    · intro value hvalue
      rw [hkept userKey (Ne.symm hnoUser)] at hvalue
      rw [hkept tokenKey (Ne.symm hnoToken)]
      exact h.user value hvalue

end Backoffice.Session.Store
