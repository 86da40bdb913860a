import Backoffice.Query.Predicate
import Backoffice.Query.Params

/-!
# Directives

A `ListSpec` declares what may be asked of a kind of list: the fields to filter and sort by, the
default sort field, the predicates that always hold and the fields to search.  Compiling list
parameters under a specification gives a `Directive`, which a table carries out.
-/

namespace Backoffice

/-- A query ready to be carried out. -/
structure Directive where
  predicates : List Node
  sortField : String
  sortAscending : Bool
  limit : Int
  offset : Int
  thenBy : List String
deriving Repr

/-- How far the caller of a list may go. -/
inductive Scope
  /-- The caller chooses page, sort field and filters. -/
  | free
  /-- As `free`, and rows that are selected by their key stay visible whatever the filters. -/
  | picker (key : String)
  /-- The list is always the same: the first page of the largest size. -/
  | fixed
deriving Repr, DecidableEq

/-- What may be asked of a kind of list. -/
structure ListSpec where
  /-- The name of the kind in messages. -/
  label : String
  defaultSort : String
  fields : List String
  searchFields : List String
  thenBy : List String
  base : List Node
  scope : Scope
deriving Repr

namespace ListSpec

/-- The field to sort by: the requested one, which has to be known, or the default. -/
def sortField (spec : ListSpec) (requested : Option String) : Except Failure String :=
  match Text.nonBlank? requested with
  | some name =>
    if name ∈ spec.fields then .ok name else .error (.refused (.unknownField .sort name))
  | none =>
    match Text.nonBlank? (some spec.defaultSort) with
    | some name => .ok name
    | none => .error (.uncompilable (.noSortField spec.label))

/-- Refuses the first name that is not a known field. -/
def checkFields (spec : ListSpec) (use : FieldUse) (names : List String) : Except Failure Unit :=
  match names.find? (· ∉ spec.fields) with
  | some name => .error (.refused (.unknownField use name))
  | none => .ok ()

/-- A refusal as a failure. -/
def refuse {α : Type} : Except Refusal α → Except Failure α
  | .ok a => .ok a
  | .error r => .error (.refused r)

/-- The predicates that the filters and the search of the caller add to those that always
hold. -/
def chain (spec : ListSpec) (p : ListParams) : Except Failure (List Node) := do
  let equality ← refuse (decodeEqualityFilters p.lookups)
  let ranges ← refuse (decodeDateRanges p.ranges)
  spec.checkFields .lookup (equality.map (·.fieldName))
  spec.checkFields .range (ranges.map (·.fieldName))
  match buildPredicates spec.base spec.searchFields equality ranges p.search with
  | .ok nodes => .ok nodes
  | .error o => .error (.overflow o)

/-- The predicates of the list.  Selected rows are added by an alternative to all the others. -/
def predicates (spec : ListSpec) (p : ListParams) : Except Failure (List Node) :=
  match spec.scope with
  | .free => spec.chain p
  | .fixed => .ok spec.base
  | .picker key => do
    let nodes ← spec.chain p
    let selected ← refuse (decodeSelectedIds p.selectedIds)
    if selected = [] then return nodes
    else return [.any [.all nodes, .test key .within (.list (selected.map .int))]]

/-- The parameters of the list that is always the same. -/
def fixedParams (settings : Settings) : Except Failure ListParams :=
  match ListParams.read settings
      [("page_index", .int 1), ("page_size", .int settings.maxPageSize)] with
  | .ok p => .ok p
  | .failed errors => .error (.invalid errors)

/-- The directive of a list. -/
def compile (spec : ListSpec) (settings : Settings) (params : ListParams) :
    Except Failure Directive := do
  let p ← if spec.scope = .fixed then fixedParams settings else .ok params
  let sortField ← spec.sortField p.sort
  let predicates ← spec.predicates p
  return ⟨predicates, sortField, p.sortAscending, p.limit, p.offset, spec.thenBy⟩

end ListSpec

end Backoffice
