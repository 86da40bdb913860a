import Backoffice.Directory.UserList

/-!
# Lookups

Lists of numbers and names for pickers.  Each source is a table with a name for its rows; rows
that are selected stay visible whatever the filters.
-/

namespace Backoffice

/-- The tables that pickers choose from. -/
inductive LookupSource
  | userStatus
  | user
  | menuModule
deriving Repr, DecidableEq

/-- A row of a picker. -/
structure LookupEntry where
  id : Int
  name : String
deriving Repr, DecidableEq

/-- The name of a row that has none. -/
def noName : String := "No Name"

namespace UserStatus

/-- The columns of a list of statuses. -/
def columns : ColumnMap UserStatus :=
  [
    ("id", .int (some ·.id)),
    ("name", .text (·.status)),
    ("symbol", .text (·.symbol)),
    ("color", .text (·.color)),
    ("deleted", .bool (·.deleted))
  ]

/-- The status as a row of a picker. -/
def entry (s : UserStatus) : LookupEntry :=
  ⟨s.id, s.status.getD noName⟩

end UserStatus

namespace User

/-- The columns of a list of users for a picker. -/
def pickerColumns : ColumnMap User :=
  [
    ("id", .int (some ·.id)),
    ("name", .textExpression (·.pickerName)),
    ("role", .text (some ·.role)),
    ("status_id", .int (·.statusId)),
    ("is_active", .bool (some ·.isActive)),
    ("created_at", .time (·.createdAt)),
    ("deleted", .bool (·.deleted))
  ]

/-- The user as a row of a picker. -/
def entry (u : User) : LookupEntry :=
  ⟨u.id, u.pickerName.getD noName⟩

end User

namespace MenuModule

/-- The columns of a list of modules. -/
def columns : ColumnMap MenuModule :=
  [
    ("id", .int (some ·.id)),
    ("name", .text (·.displayText)),
    ("sort_order", .int (·.sortOrder)),
    ("deleted", .bool (·.deleted))
  ]

/-- The module as a row of a picker. -/
def entry (m : MenuModule) : LookupEntry :=
  ⟨m.id, m.displayText.getD noName⟩

end MenuModule

namespace LookupSource

/-- All the sources. -/
def all : List LookupSource := [userStatus, user, menuModule]

/-- The name of the source. -/
def name : LookupSource → String
  | userStatus => "user_status"
  | user => "user"
  | menuModule => "menu_module"

/-- The source of a name; blanks around the name do not matter. -/
def ofName (name : String) : Except Failure LookupSource :=
  match all.find? (·.name == Text.strip name) with
  | some source => .ok source
  | none => .error (.refused (.unknownLookup name))

/-- What may be asked of a picker with these fields beside number and name. -/
def specWith (extra : List String) : ListSpec where
  label := "lookup"
  defaultSort := "name"
  fields := ["id", "name"] ++ extra
  searchFields := ["name"]
  thenBy := []
  base := [.notDeleted]
  scope := .picker "id"

/-- What may be asked of the source: all of its columns except the mark of deletion. -/
def listSpec : LookupSource → ListSpec
  | userStatus => specWith ["symbol", "color"]
  | user => specWith ["role", "status_id", "is_active", "created_at"]
  | menuModule => specWith ["sort_order"]

end LookupSource

namespace Tables

/-- A listing with each row as a row of a picker. -/
def asEntries {ρ : Type} (entry : ρ → LookupEntry) (listing : Listing ρ) : Listing LookupEntry :=
  ⟨listing.rows.map entry, listing.total⟩

/-- The rows of a source for a directive, reached along a path. -/
def lookup (t : Tables) (source : LookupSource) (d : Directive) (path : AccessPath := .byNumber) :
    Except Failure (Listing LookupEntry) :=
  match source with
  | .userStatus =>
    (path.list UserStatus.id UserStatus.columns d t.statuses).map (asEntries UserStatus.entry)
  | .user => (path.list User.id User.pickerColumns d t.users).map (asEntries User.entry)
  | .menuModule =>
    (path.list MenuModule.id MenuModule.columns d t.modules).map (asEntries MenuModule.entry)

end Tables

end Backoffice
