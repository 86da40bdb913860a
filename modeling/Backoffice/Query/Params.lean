import Backoffice.Failure
import Backoffice.Settings

/-!
# List parameters

The parameters of a list request: page, sort field and direction, search text and coded filters.
They are read from typed values or from the texts of a query string.
-/

namespace Backoffice

-- Powers are those of the standard library, whatever else is imported.
attribute [local instance (high)] instPowNat

open Form (Checked Fault Slot)

/-- The parameters of a list request.  `selectedIds` belongs to the lists of pickers only. -/
structure ListParams where
  pageIndex : Int
  pageSize : Int
  sort : Option String
  sortAscending : Bool
  search : Option String
  lookups : Option String
  ranges : Option String
  selectedIds : Option String
deriving Repr, DecidableEq

namespace ListParams

/-- The largest offset that a query can have. -/
def maxOffset : Int := 2 ^ (63 : Nat) - 1

/-- A page index, which starts from one and must not lead beyond the largest offset. -/
def asPageIndex (settings : Settings) (v : Json) : Except Fault Int := do
  let n ← Form.asInt v
  if n < 1 then .error (.broken .pageIndexPositive)
  else if maxOffset < (n - 1) * settings.pageCap then .error (.broken .pageIndexInRange)
  else .ok n

/-- A page size, brought between one row and the largest page. -/
def asPageSize (settings : Settings) (v : Json) : Except Fault Int := do
  let n ← Form.asInt v
  if n < 0 then .error (.broken .pageSizeNotNegative)
  else .ok (min (max n 1) settings.pageCap)

/-- A text that may be null; a blank one counts as null, and blanks around it are dropped. -/
def asOptionalWord (v : Json) : Except Fault (Option String) :=
  (Form.orNull Form.asText v).map Text.nonBlank?

/-- Reads the parameters of a list of entities. -/
def read (settings : Settings) (fields : List (String × Json)) : Checked ListParams :=
  (fun pageIndex pageSize sort sortAscending search lookups ranges =>
      ⟨pageIndex, pageSize, sort, sortAscending, search, lookups, ranges, none⟩)
    <$> (Form.find ["pageIndex", "page_index"] fields).default 1 (asPageIndex settings)
    <*> (Form.find ["pageSize", "page_size"] fields).default settings.defaultPageSize
      (asPageSize settings)
    <*> (Form.find ["sort"] fields).default none asOptionalWord
    <*> (Form.find ["sortAscending", "sort_ascending"] fields).default true Form.asBool
    <*> (Form.find ["search"] fields).default none asOptionalWord
    <*> (Form.find ["lookups"] fields).default none (Form.orNull Form.asText)
    <*> (Form.find ["ranges"] fields).default none (Form.orNull Form.asText)

/-- Reads the parameters of a list for a picker. -/
def readLookup (settings : Settings) (fields : List (String × Json)) : Checked ListParams :=
  (fun params selectedIds => { params with selectedIds })
    <$> read settings fields
    <*> (Form.find ["selectedIds", "selected_ids"] fields).default none (Form.orNull Form.asText)

/-- The rows of a page. -/
def limit (p : ListParams) : Int :=
  p.pageSize

/-- The rows before the page. -/
def offset (p : ListParams) : Int :=
  (p.pageIndex - 1) * p.pageSize

/-- The parameters as fields under their public names. -/
def toFields (p : ListParams) : List (String × Json) :=
  [("pageIndex", .int p.pageIndex), ("pageSize", .int p.pageSize), ("sort", Json.ofText? p.sort),
    ("sortAscending", .bool p.sortAscending), ("search", Json.ofText? p.search),
    ("lookups", Json.ofText? p.lookups), ("ranges", Json.ofText? p.ranges)]

end ListParams

/-- The texts of a query string that concern a list. -/
structure ListQuery where
  pageIndex : Option String
  pageSize : Option String
  sort : Option String
  sortAscending : Option String
  search : Option String
  lookups : Option String
  ranges : Option String
  selectedIds : Option String
deriving Repr, DecidableEq, Inhabited

namespace ListQuery

/-- A stripped text under a name, left out if it is blank. -/
def wordField (name : String) (raw : Option String) : List (String × Json) :=
  match Text.nonBlank? raw with
  | some s => [(name, .str s)]
  | none => []

/-- The texts as fields: page and direction only if they are not blank. -/
def toFields (q : ListQuery) : List (String × Json) :=
  [("sort", Json.ofText? q.sort), ("search", Json.ofText? q.search),
    ("lookups", Json.ofText? q.lookups), ("ranges", Json.ofText? q.ranges)] ++
    wordField "pageIndex" q.pageIndex ++ wordField "pageSize" q.pageSize ++
    wordField "sortAscending" q.sortAscending

/-- The parameters, or the refusal that lists what is wrong with them. -/
def orRefuse (params : Checked ListParams) : Except Refusal ListParams :=
  match params with
  | .ok p => .ok p
  | .failed errors => .error (.badParams (errors.map (·.fault)))

/-- The parameters of a list of entities. -/
def params (settings : Settings) (q : ListQuery) : Except Refusal ListParams :=
  orRefuse (ListParams.read settings q.toFields)

/-- The parameters of a list for a picker: those of any list, read once more together with the
selected rows. -/
def lookupParams (settings : Settings) (q : ListQuery) : Except Refusal ListParams := do
  let p ← q.params settings
  orRefuse (ListParams.readLookup settings
    (p.toFields ++ [("selectedIds", Json.ofText? q.selectedIds)]))

end ListQuery

end Backoffice
