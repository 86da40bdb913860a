import Backoffice.Number.Word
import Backoffice.Query.Predicate

/-!
# Cells and columns

What the columns of a table hold and how a cell is compared with a parameter.  Cells are ordered:
null comes first, then the numbers, then the texts by code point.  Before a comparison the kind
of the column turns a parameter into a cell.
-/

namespace Backoffice

-- Powers are those of the standard library, whatever else is imported.
attribute [local instance (high)] instPowNat

/-- The content of a column in a row, or what a parameter is turned into for a comparison. -/
inductive Cell
  | null
  | int (n : Int)
  /-- A number between `floor` and the integer after it.  No column holds one, and of a parameter
  no more than that counts in a comparison with integers. -/
  | fraction (floor : Int)
  | text (s : String)
deriving Repr, DecidableEq, Inhabited

namespace Cell

/-- The cell of a truth value. -/
def ofBool (b : Bool) : Cell :=
  .int (if b then 1 else 0)

/-- The cell of a value that may be absent. -/
def ofOption {α : Type} (cell : α → Cell) : Option α → Cell
  | some a => cell a
  | none => .null

/-- The cell of a wall clock time. -/
def ofWallTime (t : WallTime) : Cell :=
  .text t.storedText

/-- The cell of a floating-point number.  An infinite one lies beyond all finite ones, and what
is no number counts as null. -/
def ofReal (x : Binary64) : Cell :=
  match x, x.int? with
  | .nan, _ => .null
  | .infinity negative, _ => .int (if negative then -(2 ^ (1024 : Nat)) else 2 ^ (1024 : Nat))
  | .finite .., some n => .int n
  | .finite .., none => .fraction x.floor

/-- The first cell is at most the second. -/
def le : Cell → Cell → Bool
  | .null, _ => true
  | _, .null => false
  | .int m, .int n => m ≤ n
  | .int m, .fraction n => m ≤ n
  | .fraction m, .int n => m < n
  | .fraction m, .fraction n => m ≤ n
  | .text s, .text t => s ≤ t
  | .text _, _ => false
  | _, .text _ => true

/-- The first cell is less than the second. -/
def lt (a b : Cell) : Bool :=
  !b.le a

/-- The cell as a text; null has none. -/
def text? : Cell → Option String
  | .text s => some s
  | .int n => some (Text.decimal n)
  | _ => none

end Cell

/-- A value that a condition compares cells with. -/
inductive Parameter
  | null
  | int (n : Int)
  | real (x : Binary64)
  | text (s : String)
  /-- A value that a statement cannot have as a parameter. -/
  | unusable
deriving Repr, DecidableEq, Inhabited

namespace Parameter

/-- The parameter of a truth value. -/
def ofBool (b : Bool) : Parameter :=
  .int (if b then 1 else 0)

/-- Why a statement with the parameter fails, if it does. -/
def defect? : Parameter → Option Failure
  | .int n => if fitsWord n then none else some (.overflow .parameter)
  | .unusable => some .storage
  | _ => none

end Parameter

/-- What a column does to the parameter that it is compared with. -/
inductive Affinity
  /-- A text that is a numeral becomes a number. -/
  | numeric
  /-- A number becomes a text. -/
  | textual
  /-- Nothing. -/
  | none
deriving Repr, DecidableEq

namespace Affinity

/-- The blanks around a numeral. -/
def isNumeralBlank (c : Char) : Bool :=
  c == ' ' || (0x09 ≤ c.toNat && c.toNat ≤ 0x0D)

/-- The number that a text is the numeral of.  Digits may be missing on one side of a point, and
a power of ten may follow.  What is not written as an integer of 64 bits is rounded to a
floating-point number. -/
def numeral? (s : String) : Option Cell :=
  let (negative, body) := Text.takeSign (Text.trimBy isNumeralBlank s.toList)
  let whole := body.takeWhile Text.isDigit
  let (fraction, isWhole, rest) := match body.dropWhile Text.isDigit with
    | '.' :: tail => (tail.takeWhile Text.isDigit, false, tail.dropWhile Text.isDigit)
    | rest => ([], true, rest)
  let (exponent, rest) := Text.readExponent rest
  let n := Text.signed negative (Text.natOf whole)
  if whole ++ fraction = [] ∨ rest ≠ [] then Option.none
  else if isWhole ∧ exponent = Option.none ∧ fitsWord n then some (.int n)
  else some (.ofReal (.ofDecimal negative (Text.natOf (whole ++ fraction))
    (exponent.getD 0 - fraction.length)))

/-- The cell of a parameter as the column compares it. -/
def apply : Affinity → Parameter → Cell
  | _, .null => .null
  | textual, .int n => .text (Text.decimal n)
  | _, .int n => .int n
  | textual, .real x => .text (String.ofList x.roundedText)
  | _, .real x => .ofReal x
  | numeric, .text s => (numeral? s).getD (.text s)
  | _, .text s => .text s
  | _, .unusable => .null

end Affinity

/-- A column of the rows of type `ρ`, or an expression on them. -/
structure Column (ρ : Type) where
  affinity : Affinity
  cell : ρ → Cell

namespace Column

variable {ρ : Type}

/-- A column of integers. -/
def int (read : ρ → Option Int) : Column ρ :=
  ⟨.numeric, fun r => .ofOption .int (read r)⟩

/-- A column of truth values. -/
def bool (read : ρ → Option Bool) : Column ρ :=
  ⟨.numeric, fun r => .ofOption .ofBool (read r)⟩

/-- A column of texts. -/
def text (read : ρ → Option String) : Column ρ :=
  ⟨.textual, fun r => .ofOption .text (read r)⟩

/-- A column of wall clock times. -/
def time (read : ρ → Option WallTime) : Column ρ :=
  ⟨.numeric, fun r => .ofOption .ofWallTime (read r)⟩

/-- An expression with a text. -/
def textExpression (read : ρ → Option String) : Column ρ :=
  ⟨.none, fun r => .ofOption .text (read r)⟩

/-- An expression with an integer. -/
def intExpression (read : ρ → Option Int) : Column ρ :=
  ⟨.none, fun r => .ofOption .int (read r)⟩

end Column

/-- The columns of a kind of list under their logical names. -/
abbrev ColumnMap (ρ : Type) := List (String × Column ρ)

end Backoffice
