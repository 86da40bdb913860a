import Backoffice.Directory.Write
import Backoffice.Form.Reading

/-!
# Forms of accounts

What clients send to log in, to register, to add a user and to change one.
-/

namespace Backoffice

open Form (Checked Fault)

namespace Form

/-- The shortest password that is taken. -/
def leastPassword : Nat := 6

/-- The roles that one can register with. -/
def knownRoles : List String := ["ADMIN", "USER"]

/-- A role, in any letter case and with blanks around it; an empty one means a plain user. -/
def asRole (v : Json) : Except Fault String := do
  let s ← asText v
  let role := Text.capital (Text.strip (if s = "" then "USER" else s))
  if role ∈ knownRoles then .ok role else .error (.broken .knownRole)

/-- An e-mail address, which may be any text that is not blank. -/
def asEmail (v : Json) : Except Fault String := do
  let s ← asText v
  if Text.strip s = "" then .error (.broken .emailNotBlank) else .ok s

/-- A value that must not be null. -/
def asPresent {α : Type} (read : Json → Except Fault α) : Json → Except Fault α
  | .null => .error (.broken .notNull)
  | v => read v

end Form

/-- What is sent to log in. -/
structure LoginForm where
  email : String
  password : String
deriving Repr, DecidableEq

namespace LoginForm

/-- Reads the form from its fields. -/
def read (fields : List (String × Json)) : Checked LoginForm :=
  mk <$> (Form.find ["email"] fields).required Form.asText
    <*> (Form.find ["password"] fields).required Form.asText

/-- Reads the form from a value. -/
def ofJson (v : Json) : Checked LoginForm :=
  Form.ofObject "LoginIn" read v

end LoginForm

/-- What is sent to register. -/
structure RegisterForm where
  email : String
  password : String
  name : Option String
  surname : Option String
  role : String
deriving Repr, DecidableEq

namespace RegisterForm

/-- Reads the form from its fields. -/
def read (fields : List (String × Json)) : Checked RegisterForm :=
  mk <$> (Form.find ["email"] fields).required Form.asText
    <*> (Form.find ["password"] fields).required (Form.asLongText Form.leastPassword)
    <*> (Form.find ["name"] fields).default none (Form.orNull Form.asText)
    <*> (Form.find ["surname"] fields).default none (Form.orNull Form.asText)
    <*> (Form.find ["role"] fields).default "USER" Form.asRole

/-- Reads the form from a value. -/
def ofJson (v : Json) : Checked RegisterForm :=
  Form.ofObject "RegisterIn" read v

/-- The user to be added, with the stored form of the password. -/
def draft (f : RegisterForm) (salt password : String) : UserDraft :=
  { (default : UserDraft) with
    email := some f.email
    name := f.name
    surname := f.surname
    role := some f.role
    isActive := some true
    salt := some salt
    password := some password }

end RegisterForm

/-- What an administrator sends to add a user. -/
structure NewUserForm where
  email : String
  password : String
  name : Option String
  surname : Option String
  phoneNumber : Option String
  role : String
  isActive : Bool
  statusId : Option Int
deriving Repr, DecidableEq

namespace NewUserForm

/-- Reads the form from its fields. -/
def read (fields : List (String × Json)) : Checked NewUserForm :=
  mk <$> (Form.find ["email"] fields).required Form.asEmail
    <*> (Form.find ["password"] fields).required (Form.asLongText Form.leastPassword)
    <*> (Form.find ["name"] fields).default none (Form.orNull Form.asText)
    <*> (Form.find ["surname"] fields).default none (Form.orNull Form.asText)
    <*> (Form.find ["phone_number"] fields).default none (Form.orNull Form.asText)
    <*> (Form.find ["role"] fields).default "USER" Form.asText
    <*> (Form.find ["is_active"] fields).default true Form.asBool
    <*> (Form.find ["status_id"] fields).default none (Form.orNull Form.asInt)

/-- Reads the form from a value. -/
def ofJson (v : Json) : Checked NewUserForm :=
  Form.ofObject "UserCreate" read v

/-- The user to be added, with the stored form of the password. -/
def draft (f : NewUserForm) (salt password : String) : UserDraft :=
  { (default : UserDraft) with
    email := some f.email
    name := f.name
    surname := f.surname
    phoneNumber := f.phoneNumber
    role := some f.role
    isActive := some f.isActive
    statusId := f.statusId
    salt := some salt
    password := some password }

end NewUserForm

/-- What an administrator sends to change a user.  What is left out stays as it is. -/
structure UserEditForm where
  email : Option String
  name : Option (Option String)
  surname : Option (Option String)
  phoneNumber : Option (Option String)
  role : Option String
  isActive : Option Bool
  statusId : Option (Option Int)
  changePassword : Option Bool
deriving Repr, DecidableEq

namespace UserEditForm

/-- A value that was given. -/
def given {α : Type} (read : Json → Except Fault α) (v : Json) : Except Fault (Option α) :=
  (read v).map some

/-- Reads the form from its fields. -/
def read (fields : List (String × Json)) : Checked UserEditForm :=
  mk <$> (Form.find ["email"] fields).default none (given (Form.asPresent Form.asEmail))
    <*> (Form.find ["name"] fields).default none (given (Form.orNull Form.asText))
    <*> (Form.find ["surname"] fields).default none (given (Form.orNull Form.asText))
    <*> (Form.find ["phone_number"] fields).default none (given (Form.orNull Form.asText))
    <*> (Form.find ["role"] fields).default none (given (Form.asPresent Form.asText))
    <*> (Form.find ["is_active"] fields).default none (given (Form.asPresent Form.asBool))
    <*> (Form.find ["status_id"] fields).default none (given (Form.orNull Form.asInt))
    <*> (Form.find ["change_password"] fields).default none (given (Form.asPresent Form.asBool))

/-- Reads the form from a value. -/
def ofJson (v : Json) : Checked UserEditForm :=
  Form.ofObject "UserUpdate" read v

/-- The changes to a user. -/
def patch (f : UserEditForm) : UserPatch :=
  { (default : UserPatch) with
    email := f.email.map some
    name := f.name
    surname := f.surname
    phoneNumber := f.phoneNumber
    role := f.role.map some
    isActive := f.isActive.map some
    statusId := f.statusId
    changePassword := f.changePassword.map some }

end UserEditForm

end Backoffice
