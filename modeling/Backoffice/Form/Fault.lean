/-!
# Faults of a form

What can be wrong with a value that a form field, a query parameter or a setting was given, and
how it is reported: with a code, a message and the place of the value.
-/

namespace Backoffice.Form

/-- The rules that a value of the right type can still break. -/
inductive Rule
  | pageIndexPositive
  | pageIndexInRange
  | pageSizeNotNegative
  | knownRole
  | emailNotBlank
  | notNull
deriving Repr, DecidableEq

/-- The rule in words. -/
def Rule.text : Rule → String
  | .pageIndexPositive => "pageIndex must be >= 1"
  | .pageIndexInRange => "pageIndex is too large"
  | .pageSizeNotNegative => "pageSize must not be negative"
  | .knownRole => "role must be one of: ADMIN, USER"
  | .emailNotBlank => "email must not be blank"
  | .notNull => "must not be null"

/-- What is wrong with a value. -/
inductive Fault
  | missing
  | notText
  | tooShort (least : Nat)
  | notInt
  | unreadableInt
  | fractionalInt
  | infiniteNumber
  | oversizedInt
  | notBool
  | unreadableBool
  | notMoment
  | broken (rule : Rule)
  | notRecord (name : String)
  | notObject
deriving Repr, DecidableEq

namespace Fault

/-- The code of the fault. -/
def code : Fault → String
  | missing => "missing"
  | notText => "string_type"
  | tooShort _ => "string_too_short"
  | notInt => "int_type"
  | unreadableInt => "int_parsing"
  | fractionalInt => "int_from_float"
  | infiniteNumber => "finite_number"
  | oversizedInt => "int_parsing_size"
  | notBool => "bool_type"
  | unreadableBool => "bool_parsing"
  | notMoment => "datetime"
  | broken _ => "value_error"
  | notRecord _ => "model_type"
  | notObject => "model_attributes_type"

/-- The fault in words. -/
def message : Fault → String
  | missing => "Field required"
  | notText => "Input should be a valid string"
  | tooShort least => "String should have at least " ++ Nat.repr least ++ " characters"
  | notInt => "Input should be a valid integer"
  | unreadableInt => "Input should be a valid integer, unable to parse string as an integer"
  | fractionalInt => "Input should be a valid integer, got a number with a fractional part"
  | infiniteNumber => "Input should be a finite number"
  | oversizedInt => "Unable to parse input string as an integer, exceeded maximum size"
  | notBool => "Input should be a valid boolean"
  | unreadableBool => "Input should be a valid boolean, unable to interpret input"
  | notMoment => "Input should be a valid datetime"
  | broken rule => "Value error, " ++ rule.text
  | notRecord name => "Input should be a valid dictionary or instance of " ++ name
  | notObject => "Input should be a valid dictionary or object to extract fields from"

end Fault

/-- A fault and the place of the value that has it. -/
structure FieldError where
  place : List String
  fault : Fault
deriving Repr, DecidableEq

namespace FieldError

/-- The error seen from an enclosing place. -/
def under (outer : String) (e : FieldError) : FieldError :=
  { e with place := outer :: e.place }

end FieldError

/-- A value, or everything that is wrong with the fields it was to be made of. -/
inductive Checked (α : Type)
  | ok (value : α)
  | failed (errors : List FieldError)
deriving Repr

namespace Checked

variable {α β : Type}

/-- Applies a function to an argument; the errors of both are kept, in this order. -/
def seq (f : Checked (α → β)) (a : Checked α) : Checked β :=
  match f, a with
  | ok f, ok a => ok (f a)
  | ok _, failed es => failed es
  | failed es, ok _ => failed es
  | failed es, failed es' => failed (es ++ es')

instance : Applicative Checked where
  pure := ok
  seq f a := f.seq (a ())

/-- The errors, none for a value. -/
def errors : Checked α → List FieldError
  | ok _ => []
  | failed es => es

/-- The same outcome seen from an enclosing place. -/
def under (outer : String) : Checked α → Checked α
  | ok a => ok a
  | failed es => failed (es.map (·.under outer))

/-- Value or errors as an exception. -/
def toExcept : Checked α → Except (List FieldError) α
  | ok a => .ok a
  | failed es => .error es

end Checked

end Backoffice.Form
