import Backoffice.Directory.Tables
import Backoffice.Menu.Tree
import Backoffice.Table.AccessPath

/-!
# The menu of the service

The menu is one fixed list: the enabled items that do not require an administrator, each with its
module if there is such, sorted by module and within it.
-/

namespace Backoffice

/-- An item of the menu beside its module. -/
structure MenuLine where
  item : MenuItem
  module : Option MenuModule
deriving Repr, DecidableEq

namespace MenuLine

/-- What has no place of its own in the order comes at this place. -/
def lastPlace : Int := 999

/-- The place of the module. -/
def modulePlace (l : MenuLine) : Int :=
  (l.module.bind (·.sortOrder)).getD lastPlace

/-- The place of the item. -/
def itemPlace (l : MenuLine) : Int :=
  l.item.sortOrder.getD lastPlace

/-- The columns of the menu. -/
def columns : ColumnMap MenuLine :=
  [
    ("module_sort_order", .intExpression (some ·.modulePlace)),
    ("item_sort_order", .intExpression (some ·.itemPlace)),
    ("require_admin", .bool (·.item.requireAdmin)),
    ("is_enabled", .bool (some ·.item.isEnabled))
  ]

/-- What the menu lists. -/
def listSpec : ListSpec where
  label := "menu"
  defaultSort := "module_sort_order"
  fields := ["module_sort_order", "item_sort_order"]
  searchFields := []
  thenBy := ["item_sort_order"]
  base := [.test "require_admin" .isNot (.bool true), .test "is_enabled" .eq (.bool true)]
  scope := .fixed

/-- The line as an entry of the tree. -/
def entry (l : MenuLine) : MenuEntry where
  moduleId := l.item.moduleId
  itemId := l.item.id
  sidebarClass := l.module.bind (·.sidebarClass)
  sortOrder := l.item.sortOrder
  moduleSortOrder := l.module.bind (·.sortOrder)
  icon := Text.orEmpty l.item.icon
  moduleIcon := Text.orEmpty (l.module.bind (·.icon))
  text := Text.orEmpty l.item.displayText
  moduleText := Text.orEmpty (l.module.bind (·.displayText))
  link := Text.orEmpty l.item.routerLink
  moduleLink := l.module.bind (·.routerLink)

/-- The lines under their modules. -/
def group (lines : List MenuLine) : List MenuGroup :=
  MenuGroup.ofEntries (· == ·) (lines.map fun l => (l.item.moduleId, l.entry))

end MenuLine

namespace Tables

/-- The module of an item, deleted or not. -/
def moduleOf (t : Tables) (i : MenuItem) : Option MenuModule :=
  i.moduleId.bind fun n => t.modules.find? (·.id = n)

/-- The items of the menu beside their modules. -/
def menuLines (t : Tables) : List MenuLine :=
  t.items.map fun i => ⟨i, t.moduleOf i⟩

/-- The lines of the menu, reached along a path. -/
def listMenu (t : Tables) (settings : Settings) (path : AccessPath := .byNumber) :
    Except Failure (List MenuLine) := do
  let params ← ListSpec.fixedParams settings
  let directive ← MenuLine.listSpec.compile settings params
  return (← path.list (·.item.id) MenuLine.columns directive t.menuLines).rows

/-- The menu. -/
def menu (t : Tables) (settings : Settings) (path : AccessPath := .byNumber) :
    Except Failure (List MenuGroup) :=
  (t.listMenu settings path).map MenuLine.group

end Tables

end Backoffice
