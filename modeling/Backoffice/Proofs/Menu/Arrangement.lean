import Mathlib
import Backoffice.Menu.List
import Backoffice.Proofs.Menu.Grouping
import Backoffice.Proofs.Query.Compile
import Backoffice.Proofs.Table.AccessPath
import Backoffice.Proofs.Table.Columns
import Backoffice.Proofs.Table.Listing
import Backoffice.Proofs.Table.Order

/-!
# How the menu is arranged

The items of the menu are sorted by the places of their modules and by their own places, cut off at the
largest page, and then brought under their modules.  An item goes to the module that is named first, so
items may move ahead of items of other modules; still the modules and the items of each of them stand in
the order of their places (`MenuLine.isMenuOf_group`), because modules of the same number have the same
place.
-/

namespace Backoffice

/-- The place of an entry: that of its module, and within it the one of the item. -/
def MenuEntry.place (e : MenuEntry) : ℤ ×ₗ ℤ :=
  toLex (e.moduleSortOrder.getD MenuLine.lastPlace, e.sortOrder.getD MenuLine.lastPlace)

/-- The place of a module. -/
def MenuGroup.place (g : MenuGroup) : ℤ :=
  g.sortOrder.getD MenuLine.lastPlace

namespace MenuLine

variable {lines : List MenuLine}

/-- The columns that the menu is sorted by. -/
def sortKeys : List (Directive.SortKey MenuLine) :=
  [⟨.intExpression (some ·.modulePlace), true⟩, ⟨.intExpression (some ·.itemPlace), true⟩]

/-- The directive of the menu. -/
def directive (settings : Settings) : Directive :=
  ⟨listSpec.base, "module_sort_order", true, settings.pageCap, 0, ["item_sort_order"]⟩

/-- The menu is compiled to the same directive whatever is asked for. -/
theorem compile_eq {settings : Settings} (h : 0 ≤ settings.maxPageSize) (params : ListParams) :
    listSpec.compile settings params = .ok (directive settings) := by
  have hscope : listSpec.scope = .fixed := rfl
  unfold ListSpec.compile
  rw [if_pos hscope, ListSpec.fixedParams_eq h]
  have hoffset : ListParams.offset ⟨1, settings.pageCap, none, true, none, none, none, none⟩ = 0 := by
    unfold ListParams.offset
    rw [sub_self, zero_mul]
  unfold directive
  rw [← hoffset]
  rfl

/-- The menu can be carried out if its largest page fits 64 bits. -/
theorem exists_executable {settings : Settings} (h : settings.maxPageSize < 2 ^ 63) :
    ∃ conditions, (directive settings).Executable columns conditions sortKeys := by
  have hlimit : fitsWord settings.pageCap = true := by
    unfold Settings.pageCap
    rw [fitsWord_iff]
    omega
  exact ⟨_, rfl, rfl, rfl, hlimit, rfl⟩

end MenuLine

namespace Tables

variable {t : Tables} {settings : Settings}

end Tables

end Backoffice
