import Backoffice.Table.Listing

/-!
# Access paths

The order in which the rows of a table are reached by a statement.  A statement does not ask for
one: the rows may be gone through by their numbers, along an index upward or downward, or those of
one alternative after those of the other.  It shows in a list wherever the sort does not tell rows
apart.  The path is chosen for the statement as it is written, in which values are left open, and it
goes by what the rows hold in the columns of the list and by the alternatives that are true of them.
-/

namespace Backoffice

/-- The value as a statement shows it: null and truth values stand in its text, and all others are left
open.  Of a list it shows how many items there are. -/
def Operand.written : Operand → Operand
  | .null => .null
  | .bool b => .bool b
  | .list items => .list (items.map fun _ => .text "?")
  | _ => .text "?"

namespace Node

mutual

/-- The predicates as a statement shows them. -/
def written : Node → Node
  | .test field op value => .test field op value.written
  | .all items => .all (writtenAll items)
  | .any items => .any (writtenAll items)
  | .foreign kind => .foreign kind

/-- Several trees of predicates as a statement shows them. -/
def writtenAll : List Node → List Node
  | [] => []
  | n :: ns => n.written :: writtenAll ns

end

/-- The trees of which it is enough that one is true. -/
def alternatives : Node → List Node
  | .any items => items
  | _ => []

/-- The condition of the tree, if it asks for one, selects the row. -/
def selects {ρ : Type} (n : Node) (columns : ColumnMap ρ) (row : ρ) : Bool :=
  match condition columns n with
  | .ok (some c) => c.selects row
  | .ok none => true
  | .error _ => false

end Node

namespace Directive

/-- The directive as a statement shows it: limit and offset are values that are left open, too. -/
def written (d : Directive) : Directive :=
  { d with predicates := Node.writtenAll d.predicates, limit := 0, offset := 0 }

/-- The alternatives of the predicates. -/
def alternatives (d : Directive) : List Node :=
  d.predicates.flatMap (·.alternatives)

end Directive

/-- What a path goes by in a row: its number, its cells in the columns of the list, and which of the
alternatives are true of it. -/
structure RowView where
  number : Int
  cells : List Cell
  alternatives : List Bool
deriving Repr, DecidableEq

/-- The order in which rows are reached, for every statement.  Any two rows are reached one before the
other, and only rows of the same number count as both. -/
structure AccessPath where
  /-- The first row is reached before the second, or it is the same. -/
  le : Directive → RowView → RowView → Bool
  le_total : ∀ d a b, le d a b = true ∨ le d b a = true
  le_trans : ∀ d a b c, le d a b = true → le d b c = true → le d a c = true
  number_eq : ∀ d a b, le d a b = true → le d b a = true → a.number = b.number

namespace AccessPath

/-- The path through the rows by their numbers. -/
def byNumber : AccessPath where
  le _ a b := a.number ≤ b.number
  le_total _ a b := by
    simp only [decide_eq_true_eq]
    omega
  le_trans _ a b c := by
    simp only [decide_eq_true_eq]
    omega
  number_eq _ a b := by
    simp only [decide_eq_true_eq]
    omega

instance : Inhabited AccessPath := ⟨byNumber⟩

variable {ρ : Type} (path : AccessPath) (number : ρ → Int) (columns : ColumnMap ρ)

/-- What a path of the directive goes by in a row of the table. -/
def view (d : Directive) (row : ρ) : RowView :=
  ⟨number row, columns.map fun c => c.2.cell row, d.alternatives.map fun n => n.selects columns row⟩

/-- The rows of the table in the order in which the directive reaches them. -/
def visit (d : Directive) (rows : List ρ) : List ρ :=
  rows.mergeSort fun a b => path.le d.written (view number columns d a) (view number columns d b)

/-- Carries out the directive on a table. -/
def list (d : Directive) (rows : List ρ) : Except Failure (Listing ρ) :=
  d.list columns (path.visit number columns d rows)

end AccessPath

end Backoffice
