import Backoffice.Directory.Tables
import Backoffice.Table.AccessPath

/-!
# Lists of users

What may be asked of a list of users, and the columns behind its fields.
-/

namespace Backoffice

namespace User

/-- The columns of a list of users. -/
def columns : ColumnMap User :=
  [
    ("id", .int (some ·.id)),
    ("name", .text (·.name)),
    ("surname", .text (·.surname)),
    ("email", .text (some ·.email)),
    ("full_name", .textExpression (some ·.spacedName)),
    ("phone_number", .text (·.phoneNumber)),
    ("role", .text (some ·.role)),
    ("is_active", .bool (some ·.isActive)),
    ("status_id", .int (·.statusId)),
    ("login_date", .time (·.loginDate)),
    ("created_at", .time (·.createdAt)),
    ("updated_at", .time (·.updatedAt)),
    ("deleted", .bool (·.deleted))
  ]

/-- What may be asked of a list of users with the given default sort field. -/
def listSpecSortedBy (defaultSort : String) : ListSpec where
  label := "user"
  defaultSort := defaultSort
  fields := ["id", "name", "surname", "email", "full_name", "phone_number", "role", "is_active",
    "status_id", "login_date", "created_at", "updated_at"]
  searchFields := ["email", "name", "surname", "full_name"]
  thenBy := []
  base := [.notDeleted]
  scope := .free

/-- What may be asked of a list of users. -/
def listSpec : ListSpec :=
  listSpecSortedBy "name"

end User

/-- The users of a directive, reached along a path. -/
def Tables.listUsers (t : Tables) (d : Directive) (path : AccessPath := .byNumber) :
    Except Failure (Listing User) :=
  path.list User.id User.columns d t.users

end Backoffice
