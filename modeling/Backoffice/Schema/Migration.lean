import Backoffice.Failure

/-!
# The schema of the tables

The columns and indexes of the tables, and the migration that creates all of them or drops them.
-/

namespace Backoffice

/-- The types of columns. -/
inductive ColumnType
  | int
  | text (width : Nat)
  | bool
  | time
deriving Repr, DecidableEq

/-- The name of a column type. -/
def ColumnType.name : ColumnType → String
  | int => "INTEGER"
  | text width => "VARCHAR(" ++ Nat.repr width ++ ")"
  | bool => "BOOLEAN"
  | time => "DATETIME"

/-- A column of a table. -/
structure ColumnDef where
  name : String
  type : ColumnType
  nullable : Bool
deriving Repr, DecidableEq

/-- A table with its columns in order and the names of its indexes. -/
structure TableDef where
  name : String
  columns : List ColumnDef
  indexes : List String
deriving Repr, DecidableEq

namespace Schema

/-- A column that may be null. -/
def optional (name : String) (type : ColumnType) : ColumnDef := ⟨name, type, true⟩

/-- A column that is never null. -/
def required (name : String) (type : ColumnType) : ColumnDef := ⟨name, type, false⟩

/-- The table of statuses. -/
def statuses : TableDef where
  name := "ui_user_status"
  columns := [required "id" .int, optional "status" (.text 100), optional "symbol" (.text 50),
    optional "color" (.text 30), optional "deleted" .bool]
  indexes := []

/-- The table of users. -/
def users : TableDef where
  name := "au_users"
  columns := [required "id" .int, optional "name" (.text 200), optional "surname" (.text 200),
    required "email" (.text 200), required "password" (.text 255), required "salt" (.text 64),
    required "change_password" .bool, optional "phone_number" (.text 30),
    required "role" (.text 20), required "is_active" .bool, optional "login_date" .time,
    optional "status_id" .int, optional "auth_token" (.text 1024),
    optional "token_expires_at" .time, optional "deleted" .bool, optional "created_by" (.text 200),
    optional "updated_by" (.text 200), optional "deleted_by" (.text 200),
    optional "created_at" .time, optional "updated_at" .time, optional "deleted_at" .time]
  indexes := ["ix_au_users_status_id"]

/-- The table of the modules of the menu. -/
def modules : TableDef where
  name := "ui_sys_module"
  columns := [required "id" .int, optional "display_text" (.text 200), optional "icon" (.text 100),
    optional "router_link" (.text 300), optional "sidebar_class" (.text 100),
    optional "sort_order" .int, optional "deleted" .bool]
  indexes := []

/-- The table of the items of the menu. -/
def items : TableDef where
  name := "ui_sys_module_item"
  columns := [required "id" .int, optional "module_id" .int, optional "display_text" (.text 200),
    optional "icon" (.text 100), optional "router_link" (.text 300), optional "sort_order" .int,
    optional "require_admin" .bool, required "is_enabled" .bool]
  indexes := ["ix_ui_sys_module_item_module_id"]

/-- The tables in the order in which they are created. -/
def all : List TableDef := [statuses, users, modules, items]

/-- The table is one of the tables. -/
def isIn (tables : List TableDef) (table : TableDef) : Bool :=
  tables.any (·.name == table.name)

/-- Creates all tables; none of them may exist. -/
def upgrade (tables : List TableDef) : Except Failure (List TableDef) :=
  if all.any (isIn tables) then .error .storage else .ok (tables ++ all)

/-- Drops all tables; they have to exist. -/
def downgrade (tables : List TableDef) : Except Failure (List TableDef) :=
  if all.all (isIn tables) then .ok (tables.filter (!isIn all ·)) else .error .storage

end Schema

end Backoffice
