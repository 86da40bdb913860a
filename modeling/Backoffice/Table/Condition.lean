import Backoffice.Json.Label
import Backoffice.Table.Cell
import Backoffice.Table.Pattern

/-!
# Conditions

Predicates over logical fields become conditions over the columns of a table.  A condition on a
row is true, false or unknown, and unknown where a comparison meets null.  A row is selected if
the condition is true.
-/

namespace Backoffice

/-- The comparisons of a cell with a parameter. -/
inductive Comparison
  | eq
  | ne
  | ge
  | le
  | lt
deriving Repr, DecidableEq

/-- The comparison holds between two cells that are not null. -/
def Comparison.holds : Comparison → Cell → Cell → Bool
  | .eq, a, b => a == b
  | .ne, a, b => a != b
  | .ge, a, b => b.le a
  | .le, a, b => a.le b
  | .lt, a, b => a.lt b

/-- A condition on rows of type `ρ`. -/
inductive Condition (ρ : Type)
  | compare (column : Column ρ) (op : Comparison) (parameter : Parameter)
  | isNull (column : Column ρ)
  | isNotNull (column : Column ρ)
  | isNot (column : Column ρ) (parameter : Parameter)
  | contains (column : Column ρ) (term : String)
  | within (column : Column ρ) (parameters : List Parameter)
  | all (items : List (Condition ρ))
  | any (items : List (Condition ρ))

/-- Conjunction of truth values of which some are unknown. -/
def and3 : Option Bool → Option Bool → Option Bool
  | some false, _ => some false
  | _, some false => some false
  | some true, some true => some true
  | _, _ => none

/-- Disjunction of truth values of which some are unknown. -/
def or3 : Option Bool → Option Bool → Option Bool
  | some true, _ => some true
  | _, some true => some true
  | some false, some false => some false
  | _, _ => none

namespace Condition

variable {ρ : Type}

/-- A comparison of two cells, unknown if one of them is null. -/
def compareCells (op : Comparison) (a b : Cell) : Option Bool :=
  if a = .null ∨ b = .null then none else some (op.holds a b)

/-- A cell is one of the parameters; unknown if it is null, or if it is none of them but one of
them is null.  No cell is one of no parameters. -/
def isOneOf (a : Cell) (parameters : List Cell) : Option Bool :=
  if parameters = [] then some false
  else if a = .null then none
  else if a ∈ parameters then some true
  else if Cell.null ∈ parameters then none
  else some false

mutual

/-- The truth of the condition on a row. -/
def truth (row : ρ) : Condition ρ → Option Bool
  | .compare column op parameter =>
    compareCells op (column.cell row) (column.affinity.apply parameter)
  | .isNull column => some (column.cell row == .null)
  | .isNotNull column => some (column.cell row != .null)
  | .isNot column parameter => some (column.cell row != column.affinity.apply parameter)
  | .contains column term =>
    (column.cell row).text?.map (Pattern.matchesText (Pattern.containing term))
  | .within column parameters =>
    isOneOf (column.cell row) (parameters.map column.affinity.apply)
  | .all items => truthAll row items
  | .any items => truthAny row items

/-- The truth of all the conditions on a row. -/
def truthAll (row : ρ) : List (Condition ρ) → Option Bool
  | [] => some true
  | c :: cs => and3 (truth row c) (truthAll row cs)

/-- The truth of one of the conditions on a row. -/
def truthAny (row : ρ) : List (Condition ρ) → Option Bool
  | [] => some false
  | c :: cs => or3 (truth row c) (truthAny row cs)

end

/-- The condition selects the row. -/
def selects (c : Condition ρ) (row : ρ) : Bool :=
  c.truth row == some true

mutual

/-- Why a statement with the condition fails, if it does: what is wrong with the first bad
parameter. -/
def defect? : Condition ρ → Option Failure
  | .compare _ _ parameter => parameter.defect?
  | .isNot _ parameter => parameter.defect?
  | .within _ parameters => parameters.findSome? (·.defect?)
  | .all items => defectIn? items
  | .any items => defectIn? items
  | _ => none

/-- Why a statement with the conditions fails, if it does. -/
def defectIn? : List (Condition ρ) → Option Failure
  | [] => none
  | c :: cs => (defect? c).or (defectIn? cs)

end

end Condition

namespace Operand

/-- The value as a parameter of a statement. -/
def parameter : Operand → Parameter
  | .null => .null
  | .bool b => .ofBool b
  | .int n => .int n
  | .real x => .real x
  | .text s => .text s
  | .moment m => .text m.wall.storedText
  | .list _ | .unusable => .unusable

/-- A moment as a text, with a blank between date and time. -/
def momentTerm (m : Moment) : String :=
  m.wall.date.text ++ " " ++ m.wall.clockText ++
    (if m.wall.micro = 0 then "" else "." ++ Text.padded 6 m.wall.micro) ++
    (match m.offset with | some o => o.text | none => "")

mutual

/-- The value as an item of a list in a term. -/
def itemTerm : Operand → String
  | .null => "None"
  | .bool true => "True"
  | .bool false => "False"
  | .int n => Text.decimal n
  | .real x => x.label
  | .text s => Json.quoted s
  | .moment m => momentTerm m
  | .list items => "[" ++ itemTerms items ++ "]"
  | .unusable => ""

/-- The items of a list in a term, separated. -/
def itemTerms : List Operand → String
  | [] => ""
  | [o] => itemTerm o
  | o :: p :: rest => itemTerm o ++ ", " ++ itemTerms (p :: rest)

end

/-- The value as the text of a search term. -/
def term : Operand → String
  | .text s => s
  | o => itemTerm o

/-- The members of a list can be parameters together.  The first decides what they are taken
for: beside a truth value stand only truth values and the numbers zero and one, and beside a
moment only moments. -/
def agree : List Operand → Bool
  | .bool _ :: rest => rest.all fun
    | .null | .bool _ | .int 0 | .int 1 => true
    | .real x => x.int? == some 0 || x.int? == some 1
    | _ => false
  | .moment _ :: rest => rest.all fun
    | .null | .moment _ => true
    | _ => false
  | _ => true

/-- The value as the parameters of a membership test.  Only lists and texts have members; null,
false and zero count as the empty list. -/
def members : Operand → Except Failure (List Parameter)
  | .null | .bool false | .int 0 => .ok []
  | .list items => .ok (if agree items then items.map parameter else [.unusable])
  | .text s => .ok (s.toList.map fun c => .text (String.singleton c))
  | .real x => if x.int? = some 0 then .ok [] else .error .wrongType
  | _ => .error .wrongType

end Operand

namespace Node

variable {ρ : Type}

/-- The column of a logical field. -/
def column (columns : ColumnMap ρ) (field : String) : Except Failure (Column ρ) :=
  match columns.lookup field with
  | some c => .ok c
  | none => .error (.uncompilable (.noColumn field))

/-- The condition that compares a column by order.  Order knows neither null nor truth values. -/
def ordered (c : Column ρ) (op : Comparison) (value : Operand) :
    Except Failure (Condition ρ) :=
  match value with
  | .null | .bool _ => .error .storage
  | v => .ok (.compare c op v.parameter)

/-- The condition of a single predicate. -/
def testCondition (c : Column ρ) (op : Op) (value : Operand) :
    Except Failure (Condition ρ) :=
  match op, value with
  | .eq, .null => .ok (.isNull c)
  | .eq, v => .ok (.compare c .eq v.parameter)
  | .ne, .null => .ok (.isNotNull c)
  | .ne, v => .ok (.compare c .ne v.parameter)
  | .ge, v => ordered c .ge v
  | .le, v => ordered c .le v
  | .lt, v => ordered c .lt v
  | .contains, v => .ok (.contains c v.term)
  | .within, v => return .within c (← v.members)
  | .isNot, v => .ok (.isNot c v.parameter)
  | .other symbol, _ => .error (.uncompilable (.unsupportedOperator symbol))

mutual

/-- The condition of a tree of predicates; an empty group has none. -/
def condition (columns : ColumnMap ρ) : Node → Except Failure (Option (Condition ρ))
  | .test field op value => do
    let c ← column columns field
    return some (← testCondition c op value)
  | .all items => do
    match ← conditions columns items with
    | [] => return none
    | cs => return some (.all cs)
  | .any items => do
    match ← conditions columns items with
    | [] => return none
    | cs => return some (.any cs)
  | .foreign kind => .error (.uncompilable (.unsupportedNode kind))

/-- The conditions of several trees, without those that have none. -/
def conditions (columns : ColumnMap ρ) : List Node → Except Failure (List (Condition ρ))
  | [] => .ok []
  | n :: ns => do
    let c ← condition columns n
    let cs ← conditions columns ns
    return c.toList ++ cs

end

end Node

end Backoffice
