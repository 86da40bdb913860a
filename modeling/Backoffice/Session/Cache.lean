import Backoffice.Json.Reader
import Backoffice.Json.Writer
import Backoffice.Session.Memory

/-!
# Sessions in a shared cache

A cache keeps texts under keys for a number of seconds and obeys three commands.  The store on top
of it writes values as JSON texts under keys with a prefix of its own.
-/

namespace Backoffice.Session

/-- A command to the cache. -/
inductive Command
  | get (key : String)
  /-- Keeps a text for some seconds. -/
  | setFor (key : String) (seconds : Int) (text : String)
  | delete (key : String)
deriving Repr, DecidableEq

/-- A text of the cache and the time, in microseconds, at which it is gone. -/
structure CachedText where
  text : String
  gone : Int
deriving Repr, DecidableEq

/-- The texts of the cache. -/
abbrev CacheTexts := List (String × CachedText)

/-- Obeys a command: the text that answers it, and the texts after it.  A text whose time is up no
longer answers, and keeps its place until the key is set or deleted. -/
def Command.run (now : WallTime) (texts : CacheTexts) : Command → Option String × CacheTexts
  | .get key =>
    match texts.lookup key with
    | none => (none, texts)
    | some c => (if c.gone ≤ now.micros then none else some c.text, texts)
  | .setFor key seconds text =>
    (none, (key, ⟨text, now.micros + secondsSpan seconds⟩) :: texts.filter (·.1 ≠ key))
  | .delete key => (none, texts.filter (·.1 ≠ key))

/-- A store in a shared cache: the texts of the cache and the commands that were sent to it. -/
structure Shared where
  texts : CacheTexts
  sent : List Command
deriving Repr, Inhabited

namespace Shared

/-- The store on an empty cache. -/
def empty : Shared := ⟨[], []⟩

/-- The key in the cache. -/
def cacheKey (key : String) : String :=
  "session:" ++ key

/-- Sends a command to the cache. -/
def send (s : Shared) (now : WallTime) (c : Command) : Option String × Shared :=
  let (answer, texts) := c.run now s.texts
  (answer, ⟨texts, s.sent ++ [c]⟩)

/-- The value of a key, and the store after it was read. -/
def get (s : Shared) (now : WallTime) (key : String) : Option Json × Shared :=
  let (answer, s) := s.send now (.get (cacheKey key))
  (answer.bind fun text => Json.parse? text.toList, s)

/-- Stores a value for some seconds. -/
def set (s : Shared) (now : WallTime) (key : String) (value : Json) (ttl : Int) : Shared :=
  (s.send now (.setFor (cacheKey key) (keptSeconds ttl) (value.render .readable))).2

/-- Removes the value of a key. -/
def delete (s : Shared) (now : WallTime) (key : String) : Shared :=
  (s.send now (.delete (cacheKey key))).2

end Shared

end Backoffice.Session
