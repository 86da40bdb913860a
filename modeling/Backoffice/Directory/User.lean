import Backoffice.Calendar.Moment
import Backoffice.Text.Blank
import Backoffice.Text.Case

/-!
# Users

A row of the table of users, and the names that are derived from it.  Times are stored as wall
clock times, without an offset.
-/

namespace Backoffice

/-- A user. -/
structure User where
  id : Int
  name : Option String
  surname : Option String
  email : String
  /-- The digest of the password. -/
  password : String
  salt : String
  changePassword : Bool
  phoneNumber : Option String
  role : String
  isActive : Bool
  loginDate : Option WallTime
  statusId : Option Int
  authToken : Option String
  tokenExpiresAt : Option WallTime
  deleted : Option Bool
  createdBy : Option String
  updatedBy : Option String
  deletedBy : Option String
  createdAt : Option WallTime
  updatedAt : Option WallTime
  deletedAt : Option WallTime
deriving Repr, DecidableEq

/-- The form in which e-mail addresses are stored and compared: stripped and in lower case. -/
def normalizeEmail (raw : Option String) : String :=
  Text.lower (Text.strip (Text.orEmpty raw))

namespace User

/-- The user is not marked as deleted. -/
def isLive (u : User) : Bool :=
  u.deleted != some true

/-- The name and the surname, as far as they are not empty, with a blank between them. -/
def fullName (u : User) : String :=
  " ".intercalate ([u.name, u.surname].filterMap fun part => part.filter (· ≠ ""))

/-- Name, blank and surname, where an absent part counts as empty. -/
def spacedName (u : User) : String :=
  Text.orEmpty u.name ++ " " ++ Text.orEmpty u.surname

/-- The name in a picker: `spacedName` without the spaces at its ends, if any of it is left. -/
def pickerName (u : User) : Option String :=
  let text := String.ofList (Text.trimBy (· == ' ') u.spacedName.toList)
  if text = "" then none else some text

/-- The name to greet the user by: the full name, or else the e-mail address. -/
def displayName (u : User) : String :=
  if u.fullName = "" then u.email else u.fullName

end User

end Backoffice
