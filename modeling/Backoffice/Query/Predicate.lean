import Backoffice.Query.Filter

/-!
# Predicates

What a list request asks of a row, as trees over logical fields.  A predicate carries no text of
a query: it names a field, an operator and a value.
-/

namespace Backoffice

/-- The operators of a predicate. -/
inductive Op
  | eq
  | ne
  | ge
  | le
  | lt
  | contains
  | within
  | isNot
  /-- An operator that nothing is known of. -/
  | other (symbol : String)
deriving Repr, DecidableEq

namespace Op

/-- The sign of the operator. -/
def symbol : Op → String
  | eq => "="
  | ne => "!="
  | ge => ">="
  | le => "<="
  | lt => "<"
  | contains => "~"
  | within => "in"
  | isNot => "is_not"
  | other s => s

/-- The operators that a table can answer. -/
def all : List Op := [eq, ne, ge, le, lt, contains, within, isNot]

/-- The operator of a sign. -/
def ofSymbol (s : String) : Op :=
  (all.find? (·.symbol == s)).getD (.other s)

end Op

/-- The value of a predicate. -/
inductive Operand
  | null
  | bool (b : Bool)
  | int (n : Int)
  | real (x : Binary64)
  | text (s : String)
  | moment (m : Moment)
  | list (items : List Operand)
  /-- A value that no column can be compared with. -/
  | unusable
deriving Repr, Inhabited

/-- A tree of predicates. -/
inductive Node
  | test (field : String) (op : Op) (value : Operand)
  | all (items : List Node)
  | any (items : List Node)
  /-- Something that is no predicate, known by the name of its kind. -/
  | foreign (kind : String)
deriving Repr, Inhabited

namespace Node

/-- The row is not marked as deleted. -/
def notDeleted : Node :=
  .test "deleted" .isNot (.bool true)

/-- One of the fields contains the term; nothing is asked without fields or a term. -/
def containsAny (fields : List String) (term : String) : Option Node :=
  if fields.isEmpty || term == "" then none
  else some (.any (fields.map fun f => .test f .contains (.text term)))

end Node

/-- The predicate of an equality filter. -/
def EqualityFilter.predicate (f : EqualityFilter) : Node :=
  .test f.fieldName .eq (match f.matchValue with | some n => .int n | none => .null)

namespace DateRangeFilter

/-- A moment as the value of a predicate. -/
def operand : Option Moment → Operand
  | some m => .moment m
  | none => .null

/-- The predicate of the times from one moment to before another, if both are in the calendar. -/
def between (field : String) : Option Moment → Option Moment → Except Overflow Node
  | some first, some last =>
    .ok (.all [.test field .ge (.moment first), .test field .lt (.moment last)])
  | _, _ => .error .date

/-- The predicate of a date range filter.  A range includes both its bounds.  Without range mode
the filter selects the calendar day after the start, from its midnight to before the next. -/
def predicate (f : DateRangeFilter) : Except Overflow Node :=
  if f.isRange then
    .ok (.all [.test f.fieldName .ge (operand f.lower), .test f.fieldName .le (operand f.upper)])
  else
    match f.startDate with
    | none => .ok (.all [])
    | some start =>
      between f.fieldName (start.startOfDay.addDays? 1) (start.startOfDay.addDays? 2)

end DateRangeFilter

/-- The predicates of a list: those that always hold, then those of the filters that select
something, then the search for a term that is not blank. -/
def buildPredicates (base : List Node) (searchFields : List String)
    (equality : List EqualityFilter) (ranges : List DateRangeFilter) (search : Option String) :
    Except Overflow (List Node) := do
  let days ← (ranges.filter (·.isApplicable)).mapM (·.predicate)
  let found := (Text.nonBlank? search).bind (Node.containsAny searchFields)
  return base ++ (equality.filter (·.isSet)).map (·.predicate) ++ days ++ found.toList

end Backoffice
