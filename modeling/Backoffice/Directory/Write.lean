import Backoffice.Directory.Tables

/-!
# Writing users

Adding and changing users.  A write is refused as a whole if it breaks a rule of the table: some
columns are not null, numbers are unique, and e-mail addresses are unique among all users, those
marked as deleted included.
-/

namespace Backoffice

/-- A user to be added.  What is absent takes the default of its column. -/
structure UserDraft where
  id : Option Int
  name : Option String
  surname : Option String
  email : Option String
  password : Option String
  salt : Option String
  changePassword : Option Bool
  phoneNumber : Option String
  role : Option String
  isActive : Option Bool
  loginDate : Option WallTime
  statusId : Option Int
  authToken : Option String
  tokenExpiresAt : Option WallTime
  updatedBy : Option String
  deletedBy : Option String
  createdAt : Option WallTime
  updatedAt : Option WallTime
  deletedAt : Option WallTime
deriving Repr, DecidableEq, Inhabited

/-- Changes to a user: for each column nothing, or the new value, which may be null. -/
structure UserPatch where
  id : Option (Option Int)
  name : Option (Option String)
  surname : Option (Option String)
  email : Option (Option String)
  password : Option (Option String)
  salt : Option (Option String)
  changePassword : Option (Option Bool)
  phoneNumber : Option (Option String)
  role : Option (Option String)
  isActive : Option (Option Bool)
  loginDate : Option (Option WallTime)
  statusId : Option (Option Int)
  authToken : Option (Option String)
  tokenExpiresAt : Option (Option WallTime)
  deleted : Option (Option Bool)
  createdBy : Option (Option String)
  deletedBy : Option (Option String)
  createdAt : Option (Option WallTime)
  deletedAt : Option (Option WallTime)
deriving Repr, DecidableEq, Inhabited

/-- The value of a column that is not null. -/
def notNull {α : Type} : Option α → Except Failure α
  | some a => .ok a
  | none => .error (.refused .constraintViolated)

namespace UserDraft

/-- The user with the number `id`, created now by the actor. -/
def toUser (d : UserDraft) (id : Int) (now : WallTime) (actor : Option String) :
    Except Failure User := do
  let password ← notNull d.password
  let salt ← notNull d.salt
  return {
    id
    name := d.name
    surname := d.surname
    email := normalizeEmail d.email
    password
    salt
    changePassword := d.changePassword.getD false
    phoneNumber := d.phoneNumber
    role := d.role.getD "USER"
    isActive := d.isActive.getD true
    loginDate := d.loginDate
    statusId := d.statusId
    authToken := d.authToken
    tokenExpiresAt := d.tokenExpiresAt
    deleted := some false
    createdBy := actor
    updatedBy := d.updatedBy
    deletedBy := d.deletedBy
    createdAt := some (d.createdAt.getD now)
    updatedAt := d.updatedAt
    deletedAt := d.deletedAt
  }

end UserDraft

namespace UserPatch

/-- The value of a column after a change that must not make it null. -/
def required {α : Type} (change : Option (Option α)) (old : α) : Except Failure α :=
  match change with
  | none => .ok old
  | some value => notNull value

/-- The user after the changes, made now by the actor. -/
def applyTo (p : UserPatch) (u : User) (now : WallTime) (actor : Option String) :
    Except Failure User := do
  let id ← required p.id u.id
  let password ← required p.password u.password
  let salt ← required p.salt u.salt
  let changePassword ← required p.changePassword u.changePassword
  let role ← required p.role u.role
  let isActive ← required p.isActive u.isActive
  return {
    id
    name := p.name.getD u.name
    surname := p.surname.getD u.surname
    email := match p.email with | some email => normalizeEmail email | none => u.email
    password
    salt
    changePassword
    phoneNumber := p.phoneNumber.getD u.phoneNumber
    role
    isActive
    loginDate := p.loginDate.getD u.loginDate
    statusId := p.statusId.getD u.statusId
    authToken := p.authToken.getD u.authToken
    tokenExpiresAt := p.tokenExpiresAt.getD u.tokenExpiresAt
    deleted := p.deleted.getD u.deleted
    createdBy := p.createdBy.getD u.createdBy
    updatedBy := actor
    deletedBy := p.deletedBy.getD u.deletedBy
    createdAt := p.createdAt.getD u.createdAt
    updatedAt := some now
    deletedAt := p.deletedAt.getD u.deletedAt
  }

end UserPatch

namespace Tables

/-- The number that a new user gets. -/
def nextUserId (t : Tables) : Int :=
  match (t.users.map (·.id)).max? with
  | some n => n + 1
  | none => 1

/-- Refuses a list of numbers of which one cannot be stored. -/
def requireAllStorable (ns : List Int) : Except Failure Unit :=
  if ns.all fitsWord then .ok () else .error (.overflow .parameter)

/-- Refuses a user whose number or e-mail address one of the others has. -/
def requireUnique (others : List User) (u : User) : Except Failure Unit :=
  if others.any (·.id = u.id) then .error (.refused .constraintViolated)
  else if others.any (·.email = u.email) then .error (.refused .duplicateEmail)
  else .ok ()

/-- Adds a user. -/
def createUser (t : Tables) (now : WallTime) (actor : Option String) (draft : UserDraft) :
    Except Failure (User × Tables) := do
  requireAllStorable (draft.id.toList ++ draft.statusId.toList)
  let user ← draft.toUser (draft.id.getD t.nextUserId) now actor
  requireUnique t.users user
  return (user, { t with users := t.users ++ [user] })

/-- Puts a user in the place of the one with the number `id`. -/
def replaceUser (t : Tables) (id : Int) (user : User) : Tables :=
  { t with users := t.users.map fun u => if u.id = id then user else u }

/-- Changes a user. -/
def updateUser (t : Tables) (now : WallTime) (actor : Option String) (user : User)
    (patch : UserPatch) : Except Failure (User × Tables) := do
  requireAllStorable (patch.id.join.toList ++ patch.statusId.join.toList)
  let changed ← patch.applyTo user now actor
  requireUnique (t.users.filter (·.id ≠ user.id)) changed
  return (changed, t.replaceUser user.id changed)

/-- Marks a user as deleted. -/
def softDeleteUser (t : Tables) (now : WallTime) (actor : Option String) (user : User) :
    User × Tables :=
  let changed := { user with deleted := some true, deletedBy := actor, deletedAt := some now }
  (changed, t.replaceUser user.id changed)

/-- Notes in the row of a user that the user has logged in. -/
def recordLogin (t : Tables) (now : WallTime) (user : User) (token : String) (expires : WallTime)
    (actor : String) : User × Tables :=
  let changed := { user with
    authToken := some token
    tokenExpiresAt := some expires
    loginDate := some now
    updatedBy := some actor }
  (changed, t.replaceUser user.id changed)

end Tables

end Backoffice
