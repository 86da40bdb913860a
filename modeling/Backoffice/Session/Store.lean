import Backoffice.Json.Label
import Backoffice.Session.Cache

/-!
# The session store

Sessions are kept in a shared cache if one answers, and in memory otherwise.  A session is an
object under the key of its token; two more keys name the token and the user of the last login.
-/

namespace Backoffice.Session

/-- The key of the token of the last login. -/
def tokenKey : String := "token"

/-- The key of the user of the last login. -/
def userKey : String := "loggedInUserId"

/-- A session store. -/
inductive Store
  | memory (m : Memory)
  | shared (s : Shared)
deriving Repr, Inhabited

namespace Store

/-- The store to begin with. -/
def start (cacheAnswers : Bool) : Store :=
  if cacheAnswers then .shared .empty else .memory .empty

/-- The value of a key, and the store after it was read. -/
def get (store : Store) (now : WallTime) (key : String) : Option Json × Store :=
  match store with
  | .memory m => ((m.get now key).1, .memory (m.get now key).2)
  | .shared s => ((s.get now key).1, .shared (s.get now key).2)

/-- Stores a value for some seconds. -/
def set (store : Store) (now : WallTime) (key : String) (value : Json) (ttl : Int) :
    Except Overflow Store :=
  match store with
  | .memory m => (m.set now key value ttl).map .memory
  | .shared s => .ok (.shared (s.set now key value ttl))

/-- Removes the value of a key. -/
def delete (store : Store) (now : WallTime) (key : String) : Store :=
  match store with
  | .memory m => .memory (m.delete key)
  | .shared s => .shared (s.delete now key)

/-- The session under a key, and the store after it was read.  Blanks around the key do not
matter; there is no session under a blank key, and a value that is no object is none. -/
def principal (store : Store) (now : WallTime) (token : String) :
    Except Refusal (List (String × Json)) × Store :=
  let key := Text.strip token
  if key = "" then (.error .sessionExpired, store)
  else
    match store.get now key with
    | (some (.obj fields), store) => (.ok fields, store)
    | (_, store) => (.error .sessionExpired, store)

/-- Ends the session of a token, and forgets the last login if it was the one of this token. -/
def logout (store : Store) (now : WallTime) (token : String) : Store :=
  match (store.delete now token).get now tokenKey with
  | (some (.str last), store) =>
    if last = token then (store.delete now tokenKey).delete now userKey else store
  | (_, store) => store

end Store

end Backoffice.Session
