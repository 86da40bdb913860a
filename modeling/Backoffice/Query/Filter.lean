import Backoffice.Failure
import Backoffice.Form.Reading
import Backoffice.Json.Reader
import Backoffice.Text.Percent

/-!
# Coded filters

The filters of a list request arrive as the text of a JSON array, percent-coded or plain.
Decoding is all or nothing: any bad item refuses the whole text, and items that select nothing
are left out.
-/

namespace Backoffice

open Form (Checked Slot)

/-- A filter that a field has a value. -/
structure EqualityFilter where
  fieldName : String
  matchValue : Option Int
deriving Repr, DecidableEq

namespace EqualityFilter

/-- The filter has a value.  Zero counts as none. -/
def isSet (f : EqualityFilter) : Bool :=
  match f.matchValue with
  | some n => n != 0
  | none => false

/-- Reads a filter from its fields, under any of their names. -/
def read (fields : List (String × Json)) : Checked EqualityFilter :=
  mk <$> (Form.find ["fieldName", "field_name", "name", "Name"] fields).required Form.asText
    <*> (Form.find ["matchValue", "match_value", "id", "Id"] fields).default none
      (Form.orNull Form.asInt)

/-- Reads a filter from a value. -/
def ofJson (v : Json) : Checked EqualityFilter :=
  Form.ofObject "EqualityFilter" read v

end EqualityFilter

/-- A filter that a field lies between two moments, or on the day after one. -/
structure DateRangeFilter where
  fieldName : String
  startDate : Option Moment
  endDate : Option Moment
  isRange : Bool
  active : Bool
deriving Repr, DecidableEq

namespace DateRangeFilter

/-- Reads a filter from its fields, under any of their names. -/
def read (fields : List (String × Json)) : Checked DateRangeFilter :=
  mk <$> (Form.find ["fieldName", "field_name", "name", "Name"] fields).required Form.asText
    <*> (Form.find ["startDate", "start_date", "StartDate"] fields).default none
      (Form.orNull Form.asMoment)
    <*> (Form.find ["endDate", "end_date", "EndDate"] fields).default none
      (Form.orNull Form.asMoment)
    <*> (Form.find ["isRange", "is_range", "IsRange"] fields).default false Form.asBool
    <*> (Form.find ["active", "isOnChange", "IsOnChange"] fields).default false Form.asBool

/-- Reads a filter from a value. -/
def ofJson (v : Json) : Checked DateRangeFilter :=
  Form.ofObject "DateRangeFilter" read v

/-- The start, with the offset of the end if it has none of its own. -/
def lower (f : DateRangeFilter) : Option Moment :=
  f.startDate.map (·.withOffsetOf f.endDate)

/-- The end, with the offset of the start if it has none of its own. -/
def upper (f : DateRangeFilter) : Option Moment :=
  f.endDate.map (·.withOffsetOf f.startDate)

/-- The filter selects something: it is active and has a start, and a range also has an end at
another instant. -/
def isApplicable (f : DateRangeFilter) : Bool :=
  f.active &&
    if f.isRange then
      match f.lower, f.upper with
      | some a, some b => !a.sameInstant b
      | _, _ => false
    else f.startDate.isSome

end DateRangeFilter

namespace FilterKind

/-- The items of a coded filter.  A blank text and the word `null` stand for none. -/
def items (kind : FilterKind) (raw : Option String) : Except Refusal (List Json) :=
  let text := Text.strip (Text.orEmpty raw)
  let text := if text = "" then "" else Text.strip (Text.Percent.decode text)
  if text = "" then .ok []
  else
    match Json.parse? text.toList with
    | none => .error (.badFilter kind .malformedJson)
    | some .null => .ok []
    | some (.arr items) => .ok items
    | some _ => .error (.badFilter kind .notArray)

end FilterKind

/-- An item of a list of forms, refused with `reason` if it is an object but not such a form. -/
def decodeItem {α : Type} (kind : FilterKind) (reason : BadFilter)
    (read : List (String × Json) → Checked α) : Json → Except Refusal α
  | .obj fields =>
    match read fields with
    | .ok a => .ok a
    | .failed _ => .error (.badFilter kind reason)
  | _ => .error (.badFilter kind .notObjects)

/-- The equality filters of a coded text that have a value. -/
def decodeEqualityFilters (raw : Option String) : Except Refusal (List EqualityFilter) := do
  let items ← FilterKind.lookups.items raw
  let filters ← items.mapM (decodeItem .lookups .invalidFilter EqualityFilter.read)
  return filters.filter (·.isSet)

/-- The date range filters of a coded text that select something. -/
def decodeDateRanges (raw : Option String) : Except Refusal (List DateRangeFilter) := do
  let items ← FilterKind.ranges.items raw
  let filters ← items.mapM (decodeItem .ranges .invalidRange DateRangeFilter.read)
  return filters.filter (·.isApplicable)

/-- The integer that an item denotes, as a number or as a text. -/
def selectedId? : Json → Option Int
  | .int n => some n
  | .str s => Text.int? s.toList
  | _ => none

/-- An item of a list of row numbers. -/
def decodeSelectedId (v : Json) : Except Refusal Int :=
  match selectedId? v with
  | some n => .ok n
  | none => .error (.badFilter .selectedIds .notIntegers)

/-- The list without repetitions, in the order of first occurrence. -/
def distinct (ns : List Int) : List Int :=
  ns.foldl (fun seen n => if n ∈ seen then seen else seen ++ [n]) []

/-- The row numbers of a coded text. -/
def decodeSelectedIds (raw : Option String) : Except Refusal (List Int) := do
  let items ← FilterKind.selectedIds.items raw
  return distinct (← items.mapM decodeSelectedId)

end Backoffice
