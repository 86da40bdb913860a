import Backoffice.Directory.User
import Backoffice.Failure
import Backoffice.Number.Word

/-!
# Tables

The tables of the service, and how single rows are found in them.  Where one of several rows is
taken they are gone through in the order of their numbers.
-/

namespace Backoffice

/-- A status that users can have. -/
structure UserStatus where
  id : Int
  status : Option String
  symbol : Option String
  color : Option String
  deleted : Option Bool
deriving Repr, DecidableEq

/-- A module of the menu. -/
structure MenuModule where
  id : Int
  displayText : Option String
  icon : Option String
  routerLink : Option String
  sidebarClass : Option String
  sortOrder : Option Int
  deleted : Option Bool
deriving Repr, DecidableEq

/-- An item of the menu. -/
structure MenuItem where
  id : Int
  moduleId : Option Int
  displayText : Option String
  icon : Option String
  routerLink : Option String
  sortOrder : Option Int
  requireAdmin : Option Bool
  isEnabled : Bool
deriving Repr, DecidableEq

/-- The rows of all tables. -/
structure Tables where
  statuses : List UserStatus
  users : List User
  modules : List MenuModule
  items : List MenuItem
deriving Repr, DecidableEq, Inhabited

/-- The rows in the order of their numbers. -/
def inOrder {ρ : Type} (number : ρ → Int) (rows : List ρ) : List ρ :=
  rows.mergeSort fun a b => number a ≤ number b

/-- Refuses a number that cannot be stored, as it does not fit 64 bits. -/
def requireStorable (n : Int) : Except Failure Unit :=
  if fitsWord n then .ok () else .error (.overflow .parameter)

namespace Tables

/-- The status that the user refers to, if there is such, deleted or not. -/
def statusOf (t : Tables) (u : User) : Option UserStatus :=
  u.statusId.bind fun n => t.statuses.find? (·.id = n)

/-- The user of a number, deleted or not. -/
def userRow? (t : Tables) (id : Int) : Except Failure (Option User) := do
  requireStorable id
  return t.users.find? (·.id = id)

/-- The live user of a number. -/
def userById? (t : Tables) (id : Int) : Except Failure (Option User) := do
  requireStorable id
  return t.users.find? fun u => u.id = id && u.isLive

/-- The live user of a number, who has to exist. -/
def userById (t : Tables) (id : Int) : Except Failure User := do
  match ← t.userById? id with
  | some u => return u
  | none => .error (.refused .userNotFound)

/-- The live user with the e-mail address; of several the one with the lowest number.  A blank
address belongs to nobody.  Of the stored address only ASCII letters are put in lower case. -/
def userByEmail? (t : Tables) (email : Option String) : Option User :=
  let address := normalizeEmail email
  if address = "" then none
  else (inOrder User.id t.users).find? fun u => Text.asciiLower u.email == address && u.isLive

end Tables

end Backoffice
