import Backoffice.Form.Reading
import Backoffice.Json.Label

/-!
# The menu as a tree

Rows of menu items, each with the data of its module, are grouped by module.  The modules stand
in the order of their first rows and the items of a module in the order of the rows.
-/

namespace Backoffice

/-- An item of the menu with the data of its module. -/
structure MenuEntry where
  moduleId : Option Int
  itemId : Int
  sidebarClass : Option String
  sortOrder : Option Int
  moduleSortOrder : Option Int
  icon : String
  moduleIcon : String
  text : String
  moduleText : String
  link : String
  moduleLink : Option String
deriving Repr, DecidableEq

/-- A module of the menu with its items. -/
structure MenuGroup where
  moduleId : Option Int
  name : String
  icon : String
  sortOrder : Option Int
  link : Option String
  sidebarClass : Option String
  entries : List MenuEntry
deriving Repr, DecidableEq

namespace MenuGroup

/-- The module of an entry, without any items. -/
def ofEntry (e : MenuEntry) : MenuGroup :=
  ⟨e.moduleId, e.moduleText, e.moduleIcon, e.moduleSortOrder, e.moduleLink, e.sidebarClass, []⟩

/-- The module with one more item. -/
def add (g : MenuGroup) (e : MenuEntry) : MenuGroup :=
  { g with entries := g.entries ++ [e] }

variable {κ : Type}

/-- Adds an entry under its key: to the module that has the key, or to a new one at the end. -/
def insert (same : κ → κ → Bool) (key : κ) (e : MenuEntry) :
    List (κ × MenuGroup) → List (κ × MenuGroup)
  | [] => [(key, (ofEntry e).add e)]
  | (k, g) :: rest =>
    if same k key then (k, g.add e) :: rest else (k, g) :: insert same key e rest

/-- The modules of a list of entries with their keys. -/
def ofEntries (same : κ → κ → Bool) (entries : List (κ × MenuEntry)) : List MenuGroup :=
  (entries.foldl (fun groups p => insert same p.1 p.2 groups) []).map (·.2)

end MenuGroup

/-- A row of a menu item whose values have not been checked. -/
structure MenuRow where
  moduleId : Json
  itemId : Json
  sidebarClass : Json
  sortOrder : Json
  moduleSortOrder : Json
  icon : Json
  moduleIcon : Json
  text : Json
  moduleText : Json
  link : Json
  moduleLink : Json
deriving Repr, Inhabited

namespace MenuRow

open Form (Checked Slot)

/-- Checks the values of a row. -/
def entry (r : MenuRow) : Checked MenuEntry :=
  let field {α : Type} (name : String) (v : Json) (read : Json → Except Form.Fault α) :=
    (Slot.mk name (some v)).required read
  (fun moduleId itemId sidebarClass sortOrder moduleSortOrder moduleLink =>
      ⟨moduleId, itemId, sidebarClass, sortOrder, moduleSortOrder, r.icon.label,
        r.moduleIcon.label, r.text.label, r.moduleText.label, r.link.label, moduleLink⟩)
    <$> field "module_id" r.moduleId (Form.orNull Form.asInt)
    <*> field "module_item_id" r.itemId Form.asInt
    <*> field "module_sidebar_class" r.sidebarClass (Form.orNull Form.asText)
    <*> field "sort_order" r.sortOrder (Form.orNull Form.asInt)
    <*> field "module_sort_order" r.moduleSortOrder (Form.orNull Form.asInt)
    <*> field "module_router_link" r.moduleLink (Form.orNull Form.asText)

/-- The entries of the rows under the modules that the rows name; the first bad row fails. -/
def entries (rows : List MenuRow) : Except (List Form.FieldError) (List (Json × MenuEntry)) :=
  rows.mapM fun r => return (r.moduleId, ← r.entry.toExcept)

/-- The modules of the rows.  Rows belong to one module if they name it by equal values. -/
def group (rows : List MenuRow) : Except (List Form.FieldError) (List MenuGroup) := do
  return MenuGroup.ofEntries Json.same (← entries rows)

end MenuRow

end Backoffice
