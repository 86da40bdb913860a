import Backoffice.Account.Forms
import Backoffice.Account.Password
import Backoffice.Account.Principal

/-!
# Access to accounts

Registering, logging in and logging out, on the tables and the session store together.
-/

namespace Backoffice

/-- What the service remembers between requests. -/
structure State where
  tables : Tables
  sessions : Session.Store
deriving Repr, Inhabited

/-- What has to be drawn at random for a new password: the salt of the user and the salt of the
digest. -/
structure FreshSalts where
  user : String
  digest : List UInt8
deriving Repr, DecidableEq, Inhabited

/-- A value, or the failure that an overflow is. -/
def orOverflow {α : Type} : Except Overflow α → Except Failure α
  | .ok a => .ok a
  | .error o => .error (.overflow o)

namespace Tables

/-- Adds the user of a registration, unless somebody can already log in with the address. -/
def register (t : Tables) (now : WallTime) (salts : FreshSalts) (form : RegisterForm) :
    Except Failure (User × Tables) := do
  if (t.userByEmail? (some form.email)).isSome then .error (.refused .duplicateEmail)
  let password ← Password.hash form.password salts.user salts.digest
  t.createUser now (some form.email) (form.draft salts.user password)

/-- Adds the user of an administrator's form. -/
def addUser (t : Tables) (now : WallTime) (salts : FreshSalts) (actor : Option String)
    (form : NewUserForm) : Except Failure (User × Tables) := do
  let password ← Password.hash form.password salts.user salts.digest
  t.createUser now actor (form.draft salts.user password)

/-- The active user with this address and this password. -/
def userByCredentials (t : Tables) (email password : String) : Except Failure User :=
  match t.userByEmail? (some email) with
  | none => .error (.refused .invalidCredentials)
  | some user => do
    if !user.isActive then .error (.refused .invalidCredentials)
    if !(← Password.verify password user.salt user.password) then
      .error (.refused .invalidCredentials)
    return user

end Tables

/-- The token of a user, valid until `expires`. -/
def userToken (settings : Settings) (now expires : WallTime) (user : User) :
    Except Failure String :=
  match Token.issue settings.tokenSecret
      [("sub", .str (Text.decimal user.id)), ("email", .str user.email), ("role", .str user.role)]
      now expires with
  | .ok token => .ok token
  | .error e => .error (.token e)

/-- The principal of a user who logs in now. -/
def principalOf (settings : Settings) (now : WallTime) (user : User) :
    Except Failure Principal := do
  let expires ← orOverflow (now.after (hoursSpan settings.tokenTtlHours))
  let token ← userToken settings now expires user
  return ⟨user.id, user.email, user.displayName, user.name, user.role, token, expires⟩

namespace Session.Store

/-- Opens the session of a principal and notes it as the last login. -/
def login (store : Store) (now : WallTime) (principal : Principal) (ttl : Int) :
    Except Overflow Store := do
  let store ← store.set now principal.token (.obj principal.fields) ttl
  let store ← store.set now tokenKey (.str principal.token) ttl
  store.set now userKey (.int principal.userId) ttl

end Session.Store

namespace State

/-- Logs a user in. -/
def login (s : State) (settings : Settings) (now : WallTime) (form : LoginForm) :
    Except Failure (Principal × State) := do
  let user ← s.tables.userByCredentials form.email form.password
  let principal ← principalOf settings now user
  let sessions ← orOverflow (s.sessions.login now principal settings.sessionTtlSeconds)
  let (_, tables) := s.tables.recordLogin now user principal.token principal.expires
    principal.username
  return (principal, ⟨tables, sessions⟩)

/-- Logs the holder of a token out. -/
def logout (s : State) (now : WallTime) (token : String) : State :=
  { s with sessions := s.sessions.logout now token }

end State

end Backoffice
