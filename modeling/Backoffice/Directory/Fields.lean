import Backoffice.Directory.Write
import Backoffice.Calendar.IsoText
import Backoffice.Json.Label

/-!
# Named columns

Reading drafts and changes of users from values under the names of the columns.
-/

namespace Backoffice

namespace User

/-- The columns that can be set, by name. -/
def columnNames : List String :=
  ["id", "name", "surname", "email", "password", "salt", "change_password", "phone_number",
    "role", "is_active", "login_date", "status_id", "auth_token", "token_expires_at", "deleted",
    "created_by", "updated_by", "deleted_by", "created_at", "updated_at", "deleted_at"]

/-- The field cannot be set: the full name is derived, and the status is the row that the number
of a status refers to, which can only be left out. -/
def isReadOnly (field : String × Json) : Bool :=
  match field with
  | ("full_name", _) => true
  | ("status", .null) => false
  | ("status", _) => true
  | _ => false

/-- The name is one of no column and of nothing that is derived from columns. -/
def isUnknown (name : String) : Bool :=
  !(columnNames ++ ["full_name", "status"]).contains name

end User

namespace Json

/-- A number or null.  Truth values count as one and zero. -/
def intCell? : Json → Except Failure (Option Int)
  | .null => .ok none
  | .bool b => .ok (some (if b then 1 else 0))
  | .int n => .ok (some n)
  | .float x =>
    match x.int? with
    | some n => .ok (some n)
    | none => .error .storage
  | _ => .error .storage

/-- A text or null.  Numbers and truth values are stored as numerals. -/
def textCell? : Json → Except Failure (Option String)
  | .null | .float .nan => .ok none
  | .str s => .ok (some s)
  | .bool b => .ok (some (if b then "1" else "0"))
  | .int n => if fitsWord n then .ok (some (Text.decimal n)) else .error (.overflow .parameter)
  | .float x => .ok (some (String.ofList x.roundedText))
  | _ => .error .storage

/-- An e-mail address or null, which may be anything with a label. -/
def emailCell? : Json → Except Failure (Option String)
  | .null => .ok none
  | v => .ok (some v.label)

/-- A truth value or null.  One and zero count as truth values. -/
def boolCell? : Json → Except Failure (Option Bool)
  | .null => .ok none
  | .bool b => .ok (some b)
  | .int 0 => .ok (some false)
  | .int 1 => .ok (some true)
  | .float x =>
    match x.int? with
    | some 0 => .ok (some false)
    | some 1 => .ok (some true)
    | _ => .error .storage
  | _ => .error .storage

/-- A time in ISO form or null.  What is stored is the time on the wall, without the offset. -/
def timeCell? : Json → Except Failure (Option WallTime)
  | .null => .ok none
  | .str s =>
    match Moment.ofIso? s.toList with
    | some m => .ok (some m.wall)
    | none => .error .wrongType
  | _ => .error .wrongType

end Json

/-- The value under a name, if there is one. -/
def columnValue {α : Type} (fields : List (String × Json)) (name : String)
    (read : Json → Except Failure (Option α)) : Except Failure (Option (Option α)) :=
  match fields.lookup name with
  | none => .ok none
  | some v => return some (← read v)

/-- Reads changes of a user; names of no column are passed over. -/
def UserPatch.ofFields (fields : List (String × Json)) : Except Failure UserPatch := do
  if fields.any User.isReadOnly then .error .readOnly
  return {
    id := ← columnValue fields "id" Json.intCell?
    name := ← columnValue fields "name" Json.textCell?
    surname := ← columnValue fields "surname" Json.textCell?
    email := ← columnValue fields "email" Json.emailCell?
    password := ← columnValue fields "password" Json.textCell?
    salt := ← columnValue fields "salt" Json.textCell?
    changePassword := ← columnValue fields "change_password" Json.boolCell?
    phoneNumber := ← columnValue fields "phone_number" Json.textCell?
    role := ← columnValue fields "role" Json.textCell?
    isActive := ← columnValue fields "is_active" Json.boolCell?
    loginDate := ← columnValue fields "login_date" Json.timeCell?
    statusId := ← columnValue fields "status_id" Json.intCell?
    authToken := ← columnValue fields "auth_token" Json.textCell?
    tokenExpiresAt := ← columnValue fields "token_expires_at" Json.timeCell?
    deleted := ← columnValue fields "deleted" Json.boolCell?
    createdBy := ← columnValue fields "created_by" Json.textCell?
    deletedBy := ← columnValue fields "deleted_by" Json.textCell?
    createdAt := ← columnValue fields "created_at" Json.timeCell?
    deletedAt := ← columnValue fields "deleted_at" Json.timeCell?
  }

/-- Refuses the first field that a new user cannot be given. -/
def UserDraft.checkFields (fields : List (String × Json)) : Except Failure Unit :=
  if fields.any fun f => f.1 = "created_by" || f.1 = "deleted" then .error .wrongType
  else
    match fields.find? fun f => User.isUnknown f.1 || User.isReadOnly f with
    | some f => .error (if User.isUnknown f.1 then .wrongType else .readOnly)
    | none => .ok ()

/-- Reads a user to be added.  Who created a user and that it is not deleted is not for the
caller to say. -/
def UserDraft.ofFields (fields : List (String × Json)) : Except Failure UserDraft := do
  checkFields fields
  let patch ← UserPatch.ofFields fields
  let updatedBy ← columnValue fields "updated_by" Json.textCell?
  let updatedAt ← columnValue fields "updated_at" Json.timeCell?
  return {
    id := patch.id.join
    name := patch.name.join
    surname := patch.surname.join
    email := patch.email.join
    password := patch.password.join
    salt := patch.salt.join
    changePassword := patch.changePassword.join
    phoneNumber := patch.phoneNumber.join
    role := patch.role.join
    isActive := patch.isActive.join
    loginDate := patch.loginDate.join
    statusId := patch.statusId.join
    authToken := patch.authToken.join
    tokenExpiresAt := patch.tokenExpiresAt.join
    updatedBy := updatedBy.join
    deletedBy := patch.deletedBy.join
    createdAt := patch.createdAt.join
    updatedAt := updatedAt.join
    deletedAt := patch.deletedAt.join
  }

end Backoffice
