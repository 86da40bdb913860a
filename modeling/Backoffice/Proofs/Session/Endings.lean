import Mathlib
import Backoffice.Proofs.Session.Entries

/-!
# What a logout ends

A logout deletes the entry of the token as it is given, while a session is looked for under the token without
the blanks at its ends.  So it ends the session of a token that has no blanks there, as the tokens of requests
have none, and leaves the session of any other token (`Store.ended_logout`).
-/

namespace Backoffice.Session.Store

variable {store : Store} {now later : WallTime} {key token : String}

/-- A logout with the token deletes the entry of the key: it is the token itself, or one of the keys of the
last login if that is named as the one of the token. -/
def Ends (store : Store) (now : WallTime) (token key : String) : Prop :=
  key = token ∨ (token ≠ tokenKey ∧ store.peek now tokenKey = some (.str token)) ∧
    (key = tokenKey ∨ key = userKey)

/-- Beside the entry of its token a logout leaves what is kept, up to the entries of the last login. -/
theorem kept?_withoutToken (store : Store) (h : now.micros ≤ later.micros) (token key : String) :
    (store.withoutToken now token).kept? later key =
      if key = token then none else store.kept? later key := by
  unfold withoutToken
  rw [kept?_get _ h, kept?_delete]

/-- A logout takes away the entries that it ends. -/
theorem kept?_logout_of_ends (h : now.micros ≤ later.micros) (hends : store.Ends now token key) :
    (store.logout now token).kept? later key = none := by
  by_cases hlast : token ≠ tokenKey ∧ store.peek now tokenKey = some (.str token)
  · rw [logout_of_last hlast.1 hlast.2, kept?_delete, kept?_delete, kept?_withoutToken store h]
    rcases hends with rfl | ⟨-, rfl | rfl⟩ <;> simp
  · rw [logout_of_other fun htoken hnamed => hlast ⟨htoken, hnamed⟩, kept?_withoutToken store h, if_pos]
    exact hends.resolve_right fun hshared => hlast hshared.1

/-- A logout leaves all other entries as they are. -/
theorem kept?_logout_of_not_ends (h : now.micros ≤ later.micros) (hkept : ¬ store.Ends now token key) :
    (store.logout now token).kept? later key = store.kept? later key := by
  unfold Ends at hkept
  rw [not_or] at hkept
  by_cases hlast : token ≠ tokenKey ∧ store.peek now tokenKey = some (.str token)
  · have hkeys := not_or.mp fun hkey => hkept.2 ⟨hlast, hkey⟩
    rw [logout_of_last hlast.1 hlast.2, kept?_delete, kept?_delete, kept?_withoutToken store h,
      if_neg hkeys.2, if_neg hkeys.1, if_neg hkept.1]
  · rw [logout_of_other fun htoken hnamed => hlast ⟨htoken, hnamed⟩, kept?_withoutToken store h,
      if_neg hkept.1]

/-! ### Sessions after a logout -/

/-- The session that a token leads to is told by what is kept under the token without its blanks. -/
theorem principal_congr_kept? {store' : Store}
    (h : store.kept? now (Text.strip token) = store'.kept? now (Text.strip token)) :
    (store.principal now token).1 = (store'.principal now token).1 := by
  refine principal_congr ?_
  rw [peek_eq_bind, peek_eq_bind, h]

/-- A logout that deletes the entry under which the session of the token is looked for ends this session. -/
theorem principal_logout_of_ends (h : now.micros ≤ later.micros)
    (hends : store.Ends now token (Text.strip token)) :
    ((store.logout now token).principal later token).1 = .error .sessionExpired := by
  refine principal_eq_error ?_
  rw [peek_eq_bind, kept?_logout_of_ends h hends, Option.bind_none]

/-- After a logout the token leads to no session, if it has no blanks at its ends.  The logout deletes the
entry of the token, those of the last login if they name the token, and no other: everything else whose time
is not up is kept as it was written.  A token with blanks at its ends leads to the session that it led to
before, since the entry of the token without its blanks is not deleted, unless this is an entry of the last
login. -/
theorem ended_logout (store : Store) (h : now.micros ≤ later.micros) (token : String) :
    let next := store.logout now token
    (∀ key, (store.Ends now token key → next.kept? later key = none) ∧
        (¬ store.Ends now token key → next.kept? later key = store.kept? later key)) ∧
      (Text.strip token = token → (next.principal later token).1 = .error .sessionExpired) ∧
      (store.Ends now token (Text.strip token) → (next.principal later token).1 = .error .sessionExpired) ∧
      (¬ store.Ends now token (Text.strip token) →
        (next.principal later token).1 = (store.principal later token).1) :=
  ⟨fun _ => ⟨kept?_logout_of_ends h, kept?_logout_of_not_ends h⟩,
    fun hplain => principal_logout_of_ends h (.inl hplain), principal_logout_of_ends h,
    fun hkept => principal_congr_kept? (kept?_logout_of_not_ends h hkept)⟩

/-- The entry of a value that is kept for the first hour of the calendar. -/
def keptFirstHour (value : Json) : Entry :=
  ⟨value, ⟨3600000000, by decide⟩⟩

/-- A store with two sessions, of which the first is the one of the last login. -/
def twoSessions : Store :=
  .memory ⟨[("a.b.c", keptFirstHour (.obj [("user_id", .int 1)])), (tokenKey, keptFirstHour (.str "a.b.c")),
    (userKey, keptFirstHour (.int 1)), ("d.e.f", keptFirstHour (.obj [("user_id", .int 2)]))]⟩

/-- A logout from the first session ends it and forgets the last login, and leaves the second session. -/
theorem ended_logout_twoSessions :
    let next := twoSessions.logout .first "a.b.c"
    (next.principal .first "a.b.c").1 = .error .sessionExpired ∧
      next.kept? .first userKey = none ∧
      next.kept? .first "d.e.f" = some (.value (keptFirstHour (.obj [("user_id", .int 2)]))) := by
  intro next
  obtain ⟨hentries, hended, -, -⟩ := ended_logout twoSessions (le_refl WallTime.first.micros) "a.b.c"
  have hlast : "a.b.c" ≠ tokenKey ∧ twoSessions.peek .first tokenKey = some (.str "a.b.c") :=
    ⟨by decide, rfl⟩
  have hother : ¬ twoSessions.Ends .first "a.b.c" "d.e.f" := by
    rintro (hkey | ⟨-, hkey | hkey⟩) <;> revert hkey <;> decide
  refine ⟨hended rfl, (hentries userKey).1 (.inr ⟨hlast, .inr rfl⟩), ?_⟩
  rw [(hentries "d.e.f").2 hother]
  rfl

/-- A logout with a token that has a blank before it leaves the session that this token leads to. -/
theorem kept_logout_padded :
    ((twoSessions.logout .first " a.b.c").principal .first " a.b.c").1 =
      .ok [("user_id", .int 1)] :=
  rfl

end Backoffice.Session.Store
