import Backoffice.Account.Principal
import Backoffice.Directory.Lookup
import Backoffice.Menu.Tree

/-!
# Views

The JSON forms in which the service shows its data.
-/

namespace Backoffice

namespace Json

/-- A number or null. -/
def ofInt? : Option Int → Json
  | some n => .int n
  | none => .null

/-- A time without an offset, or null. -/
def ofTime? : Option WallTime → Json
  | some t => .str t.text
  | none => .null

end Json

open Json (ofText? ofInt? ofTime?)

/-- A user with the data of the status. -/
def User.view (u : User) (status : Option UserStatus) : Json :=
  .obj [
    ("id", .int u.id),
    ("name", ofText? u.name),
    ("surname", ofText? u.surname),
    ("full_name", .str u.fullName),
    ("email", .str u.email),
    ("phone_number", ofText? u.phoneNumber),
    ("role", .str u.role),
    ("is_active", .bool u.isActive),
    ("change_password", .bool u.changePassword),
    ("login_date", ofTime? u.loginDate),
    ("status_id", ofInt? u.statusId),
    ("status_name", ofText? (status.bind (·.status))),
    ("status_symbol", ofText? (status.bind (·.symbol))),
    ("status_color", ofText? (status.bind (·.color))),
    ("created_at", ofTime? u.createdAt),
    ("updated_at", ofTime? u.updatedAt)
  ]

/-- A user of the tables. -/
def Tables.userView (t : Tables) (u : User) : Json :=
  u.view (t.statusOf u)

/-- A page of users. -/
def Tables.usersView (t : Tables) (params : ListParams) (listing : Listing User) : Json :=
  .obj [
    ("page_index", .int params.pageIndex),
    ("page_size", .int params.pageSize),
    ("count", .int listing.total),
    ("data", .arr (listing.rows.map t.userView))
  ]

/-- The rows of a picker. -/
def lookupView (listing : Listing LookupEntry) : Json :=
  .obj [
    ("data", .arr (listing.rows.map fun e => .obj [("id", .int e.id), ("name", .str e.name)])),
    ("count", .int listing.total)
  ]

/-- An item of the menu. -/
def MenuEntry.view (e : MenuEntry) : Json :=
  .obj [
    ("module_id", ofInt? e.moduleId),
    ("module_item_id", .int e.itemId),
    ("module_sidebar_class", ofText? e.sidebarClass),
    ("sort_order", ofInt? e.sortOrder),
    ("module_sort_order", ofInt? e.moduleSortOrder),
    ("icon", .str e.icon),
    ("module_icon", .str e.moduleIcon),
    ("display_text", .str e.text),
    ("module_display_text", .str e.moduleText),
    ("router_link", .str e.link),
    ("module_router_link", ofText? e.moduleLink)
  ]

/-- A module of the menu with its items. -/
def MenuGroup.view (g : MenuGroup) : Json :=
  .obj [
    ("module_id", ofInt? g.moduleId),
    ("module_name", .str g.name),
    ("module_icon", .str g.icon),
    ("module_sort_order", ofInt? g.sortOrder),
    ("module_router_link", ofText? g.link),
    ("module_sidebar_class", ofText? g.sidebarClass),
    ("menu_list", .arr (g.entries.map (·.view)))
  ]

/-- The answer to a login, with the given form of the time at which it is over. -/
def Principal.viewWith (p : Principal) (expires : Json) : Json :=
  .obj [
    ("success", .bool true),
    ("user_id", .int p.userId),
    ("email", .str p.email),
    ("username", .str p.username),
    ("role", .str p.role),
    ("token", .str p.token),
    ("token_type", .str "Bearer"),
    ("expire_date", expires),
    ("timestamp", .int p.expires.unixTimestamp),
    ("is_logged_in", .bool true)
  ]

/-- The answer to a login. -/
def Principal.view (p : Principal) : Json :=
  p.viewWith (.str (Moment.utc p.expires).zuluText)

/-- An error in a field. -/
def Form.FieldError.view (e : FieldError) : Json :=
  .obj [
    ("type", .str e.fault.code),
    ("loc", .arr (e.place.map .str)),
    ("msg", .str e.fault.message)
  ]

end Backoffice
