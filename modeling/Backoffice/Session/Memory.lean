import Backoffice.Calendar.Span
import Backoffice.Json.Basic

/-!
# Sessions in memory

A store of values under keys, each with a time at which it is over.  A value that is over is
removed when it is read.
-/

namespace Backoffice.Session

/-- The seconds that a value is kept: at least one. -/
def keptSeconds (ttl : Int) : Int :=
  max ttl 1

/-- A value and the time at which it is over. -/
structure Entry where
  value : Json
  expires : WallTime
deriving Repr

/-- A store in memory: the entries, of which there is at most one for a key. -/
structure Memory where
  entries : List (String × Entry)
deriving Repr, Inhabited

namespace Memory

/-- The store without entries. -/
def empty : Memory := ⟨[]⟩

/-- Removes the entry of a key. -/
def delete (m : Memory) (key : String) : Memory :=
  ⟨m.entries.filter (·.1 ≠ key)⟩

/-- The value of a key, and the store after it was read. -/
def get (m : Memory) (now : WallTime) (key : String) : Option Json × Memory :=
  match m.entries.lookup key with
  | none => (none, m)
  | some e => if e.expires.micros ≤ now.micros then (none, m.delete key) else (some e.value, m)

/-- Stores a value for some seconds. -/
def set (m : Memory) (now : WallTime) (key : String) (value : Json) (ttl : Int) :
    Except Overflow Memory := do
  let expires ← now.after (secondsSpan (keptSeconds ttl))
  return ⟨(key, ⟨value, expires⟩) :: (m.delete key).entries⟩

/-- The keys of the entries, those that are over included. -/
def keys (m : Memory) : List String :=
  m.entries.map (·.1)

end Memory

end Backoffice.Session
