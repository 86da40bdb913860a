import Backoffice.Account.Token
import Backoffice.Calendar.IsoText
import Backoffice.Json.Label
import Backoffice.Session.Store
import Backoffice.Settings

/-!
# Principals

Who acts: the session that a login leaves in the store, and how a request is led back to it.  A
session comes back from the store as a JSON object, whatever was stored there.
-/

namespace Backoffice

/-- The user of a login with the token that was issued. -/
structure Principal where
  userId : Int
  email : String
  username : String
  name : Option String
  role : String
  token : String
  expires : WallTime
deriving Repr, DecidableEq

namespace Principal

/-- The principal as a session. -/
def fields (p : Principal) : List (String × Json) :=
  [
    ("user_id", .int p.userId),
    ("email", .str p.email),
    ("username", .str p.username),
    ("name", Json.ofText? p.name),
    ("role", .str p.role),
    ("token", .str p.token),
    ("expire_date", .str (Moment.utc p.expires).text),
    ("timestamp", .int p.expires.unixTimestamp)
  ]

end Principal

/-- A session as it comes back from the store. -/
abbrev SessionFields := List (String × Json)

namespace SessionFields

/-- The value of a field; an absent one counts as null. -/
def field (session : SessionFields) (name : String) : Json :=
  (session.lookup name).getD .null

/-- The name under which the actions of the session are recorded: the name of the user or else
the e-mail address, if it is not blank. -/
def actorLabel (session : SessionFields) : Option String :=
  let username := (field session "username").label
  Text.nonBlank? (some (if username = "" then (field session "email").label else username))

/-- The role of the session is one of the roles. -/
def hasRole (session : SessionFields) (roles : List Json) : Bool :=
  roles.any (·.same (field session "role"))

/-- Refuses a session that has none of the roles. -/
def requireRole (session : SessionFields) (roles : List Json) : Except Refusal Unit :=
  if hasRole session roles then .ok () else .error .forbidden

end SessionFields

/-- The token of a request, which has to be there and to be acceptable. -/
def requireToken (settings : Settings) (now : WallTime) (token : Option String) :
    Except Refusal String :=
  match token with
  | none => .error .missingToken
  | some token =>
    match Token.accept settings.tokenSecret token now with
    | .ok _ => .ok token
    | .error _ => .error .invalidToken

/-- The session of a request with a token, and the store after it was read. -/
def authenticate (settings : Settings) (now : WallTime) (token : Option String)
    (store : Session.Store) : Except Refusal SessionFields × Session.Store :=
  match requireToken settings now token with
  | .error r => (.error r, store)
  | .ok token => store.principal now token

end Backoffice
