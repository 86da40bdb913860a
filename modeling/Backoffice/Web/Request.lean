import Backoffice.Query.Params
import Backoffice.Text.Percent
import Backoffice.Text.Split

/-!
# Requests

A request as it arrives, and what is read from its address and its headers.
-/

namespace Backoffice.Web

/-- A request.  The path is decoded, the query string is not. -/
structure Request where
  method : String
  path : String
  query : String
  headers : List (String × String)
  body : Option Json
deriving Repr

/-- A name or value of a query string: plus signs are blanks, percent coding is undone. -/
def decodePart (cs : List Char) : String :=
  Text.Percent.decode (String.ofList (cs.map fun c => if c = '+' then ' ' else c))

/-- The name and value of a part of a query string.  Without an equals sign the value is empty,
and an empty part has none. -/
def readPair (cs : List Char) : Option (String × String) :=
  if cs = [] then none
  else
    match Text.splitFirst '=' cs with
    | some (name, value) => some (decodePart name, decodePart value)
    | none => some (decodePart cs, "")

/-- The names and values of a query string. -/
def readQuery (query : String) : List (String × String) :=
  (Text.split '&' query.toList).filterMap readPair

/-- The last value of a name. -/
def lastValue (pairs : List (String × String)) (name : String) : Option String :=
  pairs.reverse.lookup name

namespace Request

/-- The value of a header; the letter case of its name does not matter. -/
def header (r : Request) (name : String) : Option String :=
  (r.headers.find? fun h => Text.asciiLower h.1 == Text.asciiLower name).map (·.2)

/-- The parts of the path between slashes. -/
def segments (r : Request) : List String :=
  (Text.split '/' r.path.toList).map String.ofList

/-- What the query string says about a list. -/
def listQuery (r : Request) : ListQuery :=
  let value := lastValue (readQuery r.query)
  {
    pageIndex := value "pageIndex"
    pageSize := value "pageSize"
    sort := value "sort"
    sortAscending := value "sortAscending"
    search := value "search"
    lookups := value "lookups"
    ranges := value "ranges"
    selectedIds := value "selectedIds"
  }

/-- The token of an authorization header: what follows the first blank, without the blanks at its
ends, if any of it is left and the word before it is `bearer` in any letter case. -/
def readBearer (header : String) : Option String :=
  match Text.splitFirst ' ' header.toList with
  | some (scheme, token) =>
    if Text.lower (String.ofList scheme) = "bearer" then
      Text.nonBlank? (some (String.ofList token))
    else none
  | none => none

/-- A content type is one of JSON texts: its main part is `application`, and its second part is
`json` or ends in `+json`, in any letter case.  Parameters after a semicolon do not matter. -/
def isJsonType (contentType : String) : Bool :=
  let type := (Text.strip (String.ofList (contentType.toList.takeWhile (· != ';')))).toList
  match Text.split '/' (Text.lower (String.ofList type)).toList with
  | [main, second] =>
    main == "application".toList && (second == "json".toList || "+json".toList.isSuffixOf second)
  | _ => false

/-- The body is a JSON text.  It counts as one if nothing is said about it. -/
def hasJsonBody (r : Request) : Bool :=
  match r.header "Content-Type" with
  | none | some "" => true
  | some contentType => isJsonType contentType

/-- The token that comes with the request. -/
def bearer (r : Request) : Option String :=
  (r.header "Authorization").bind readBearer

end Request

end Backoffice.Web
