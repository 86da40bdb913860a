import Backoffice.Table.Condition
import Backoffice.Query.Directive

/-!
# Listings

Carrying out a directive on rows as they are reached one after the other: the rows that satisfy
every predicate, sorted by the columns of the directive, and of those one page.  Rows that the sort
does not tell apart keep the order in which they are reached.
-/

namespace Backoffice

/-- A page of rows, and the number of rows on all pages. -/
structure Listing (ρ : Type) where
  rows : List ρ
  total : Nat
deriving Repr

namespace Directive

variable {ρ : Type}

/-- A column to sort by, upward or downward. -/
structure SortKey (ρ : Type) where
  column : Column ρ
  ascending : Bool

namespace SortKey

/-- The first row does not come after the second by this key. -/
def le (k : SortKey ρ) (a b : ρ) : Bool :=
  if k.ascending then (k.column.cell a).le (k.column.cell b)
  else (k.column.cell b).le (k.column.cell a)

/-- The first row does not come after the second by the first key that tells them apart. -/
def leBy : List (SortKey ρ) → ρ → ρ → Bool
  | [], _, _ => true
  | k :: ks, a, b => if k.column.cell a = k.column.cell b then leBy ks a b else k.le a b

end SortKey

/-- The columns to sort by: the sort field, then the others upward. -/
def sortKeys (d : Directive) (columns : ColumnMap ρ) : Except Failure (List (SortKey ρ)) := do
  let first ← Node.column columns d.sortField
  let rest ← d.thenBy.mapM (Node.column columns)
  return ⟨first, d.sortAscending⟩ :: rest.map (⟨·, true⟩)

/-- The rows that satisfy every condition. -/
def matching (conditions : List (Condition ρ)) (rows : List ρ) : List ρ :=
  rows.filter fun r => conditions.all (·.selects r)

/-- Puts a row in its place among sorted ones: behind all that need not come after it. -/
def place (keys : List (SortKey ρ)) (row : ρ) : List ρ → List ρ
  | [] => [row]
  | r :: rs => if SortKey.leBy keys r row then r :: place keys row rs else row :: r :: rs

/-- The rows in the order of the keys. -/
def sorted (keys : List (SortKey ρ)) (rows : List ρ) : List ρ :=
  rows.foldl (fun done row => place keys row done) []

/-- The first `count` rows in the order of the keys.  No more rows than that are kept while the rows
are gone through. -/
def leading (keys : List (SortKey ρ)) (count : Nat) (rows : List ρ) : List ρ :=
  rows.foldl (fun done row => (place keys row done).take count) []

/-- A page of the rows.  A negative offset counts as zero, a negative limit as no limit. -/
def page (limit offset : Int) (rows : List ρ) : List ρ :=
  let rest := rows.drop offset.toNat
  if limit < 0 then rest else rest.take limit.toNat

/-- A page of the rows in the order of the keys.  With a limit only the rows up to the end of the page
are sorted out. -/
def sortedPage (keys : List (SortKey ρ)) (limit offset : Int) (rows : List ρ) : List ρ :=
  page limit offset
    (if limit < 0 then sorted keys rows else leading keys (offset.toNat + limit.toNat) rows)

/-- Carries out the directive on the rows as they are reached. -/
def list (d : Directive) (columns : ColumnMap ρ) (rows : List ρ) :
    Except Failure (Listing ρ) := do
  let conditions ← Node.conditions columns d.predicates
  if let some failure := Condition.defectIn? conditions then .error failure
  let selected := matching conditions rows
  let keys ← d.sortKeys columns
  if !(fitsWord d.limit && fitsWord d.offset) then
    .error (.overflow .parameter)
  return ⟨sortedPage keys d.limit d.offset selected, selected.length⟩

end Directive

end Backoffice
