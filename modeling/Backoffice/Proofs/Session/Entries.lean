import Mathlib
import Backoffice.Proofs.Session.Reads

/-!
# Entries whose time is not up

Reading may drop an entry that is over, but what a store keeps otherwise, the values with their times, stays
as it is (`kept?_authenticate`).  A login writes
three entries; if the first can be written then so can the others, so that no login stops half way
(`Store.exists_login`).
-/

namespace Backoffice

namespace Session.Store

variable {store next : Store} {now later : WallTime} {key other : String}

/-- Looking for a session changes nothing whose time is not up. -/
theorem kept?_principal (store : Store) (now : WallTime) (token key : String) :
    (store.principal now token).2.kept? now key = store.kept? now key := by
  have hget := kept?_get store (le_refl now.micros) (Text.strip token) key
  unfold principal
  dsimp only
  split_ifs
  · rfl
  · rw [← hget]
    rcases store.get now (Text.strip token) with ⟨_ | v, next⟩
    · rfl
    · cases v <;> rfl

/-- What was set once can be followed by more: only the time decides whether something can be set. -/
theorem exists_set {value : Json} {ttl : Int} (h : store.set now key value ttl = .ok next)
    (other : String) (value' : Json) : ∃ later, next.set now other value' ttl = .ok later := by
  cases store with
  | memory m =>
    obtain ⟨m', hm', rfl⟩ := map_eq_ok_iff.mp h
    obtain ⟨expires, hexpires, -⟩ := bind_eq_ok_iff.mp hm'
    have hset : ∃ m'', m'.set now other value' ttl = .ok m'' := by
      unfold Memory.set
      rw [hexpires]
      exact ⟨_, rfl⟩
    obtain ⟨m'', hm''⟩ := hset
    exact ⟨.memory m'', map_eq_ok_iff.mpr ⟨m'', hm'', rfl⟩⟩
  | shared s =>
    cases h
    exact ⟨_, rfl⟩

/-- A login whose first entry can be written is written as a whole. -/
theorem exists_login {principal : Principal} {ttl : Int} {first : Store}
    (h : store.set now principal.token (.obj principal.fields) ttl = .ok first) :
    ∃ sessions, store.login now principal ttl = .ok sessions := by
  obtain ⟨second, hsecond⟩ := exists_set h tokenKey (.str principal.token)
  obtain ⟨third, hthird⟩ := exists_set hsecond userKey (.int principal.userId)
  unfold login
  simp only [bind_eq_ok_iff]
  exact ⟨third, first, h, second, hsecond, hthird⟩

end Session.Store

/-- Looking for the session of a request changes nothing whose time is not up. -/
theorem kept?_authenticate (settings : Settings) (now : WallTime) (token : Option String)
    (store : Session.Store) (key : String) :
    (authenticate settings now token store).2.kept? now key = store.kept? now key := by
  unfold authenticate
  split
  · rfl
  · exact Session.Store.kept?_principal store now _ key

end Backoffice
