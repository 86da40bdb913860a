import Backoffice.Form.Fault

/-!
# Failures

Why an operation of the service stops.  A `Refusal` is an answer to the client, with a status
and a text of its own; every other `Failure` is an error of the service or of the caller.
-/

namespace Backoffice

/-- The kinds of filters that a list request carries as coded text. -/
inductive FilterKind
  | lookups
  | ranges
  | selectedIds
deriving Repr, DecidableEq

/-- The name of the request parameter. -/
def FilterKind.name : FilterKind → String
  | .lookups => "lookups"
  | .ranges => "ranges"
  | .selectedIds => "selectedIds"

/-- Why a coded filter is refused. -/
inductive BadFilter
  | malformedJson
  | notArray
  | notObjects
  | invalidFilter
  | invalidRange
  | notIntegers
deriving Repr, DecidableEq

/-- The reason in words. -/
def BadFilter.text : BadFilter → String
  | .malformedJson => "malformed JSON"
  | .notArray => "expected a JSON array"
  | .notObjects => "expected an array of objects"
  | .invalidFilter => "invalid filter item"
  | .invalidRange => "invalid range item"
  | .notIntegers => "expected an array of integers"

/-- What a caller can name a field for. -/
inductive FieldUse
  | sort
  | lookup
  | range
deriving Repr, DecidableEq

/-- The use in words. -/
def FieldUse.name : FieldUse → String
  | .sort => "sort"
  | .lookup => "lookup"
  | .range => "range"

/-- An answer that refuses a request. -/
inductive Refusal
  | badFilter (kind : FilterKind) (reason : BadFilter)
  | unknownField (use : FieldUse) (name : String)
  | badParams (faults : List Form.Fault)
  | duplicateEmail
  | constraintViolated
  | userNotFound
  | unknownLookup (name : String)
  | missingToken
  | invalidToken
  | sessionExpired
  | invalidCredentials
  | forbidden
deriving Repr, DecidableEq

namespace Refusal

/-- The status of the answer. -/
def status : Refusal → Nat
  | badFilter .. | unknownField .. | badParams _ | duplicateEmail | constraintViolated => 400
  | missingToken | invalidToken | sessionExpired | invalidCredentials => 401
  | forbidden => 403
  | userNotFound | unknownLookup _ => 404

/-- The text of the answer. -/
def detail : Refusal → String
  | badFilter kind reason => "Invalid \"" ++ kind.name ++ "\" filter payload: " ++ reason.text
  | unknownField use name => "Unknown " ++ use.name ++ " field \"" ++ name ++ "\""
  | badParams faults => "; ".intercalate (faults.map (·.message))
  | duplicateEmail => "User with this email already exists"
  | constraintViolated => "User data violates a database constraint"
  | userNotFound => "User not found"
  | unknownLookup name => "Unknown lookup \"" ++ name ++ "\""
  | missingToken => "Missing authorization token"
  | invalidToken => "Invalid token"
  | sessionExpired => "Session expired, please log in again"
  | invalidCredentials => "Invalid email or password"
  | forbidden => "Insufficient permissions"

end Refusal

/-- Why a query cannot be built. -/
inductive CompileError
  | noSortField (label : String)
  | noColumn (field : String)
  | unsupportedOperator (symbol : String)
  | unsupportedNode (kind : String)
deriving Repr, DecidableEq

/-- The reason in words. -/
def CompileError.message : CompileError → String
  | .noSortField label => "No sort field resolved for " ++ label
  | .noColumn field => "Field \"" ++ field ++ "\" has no column mapping"
  | .unsupportedOperator symbol => "Unsupported operator \"" ++ symbol ++ "\""
  | .unsupportedNode kind => "Unsupported predicate node " ++ kind

/-- What does not fit its range. -/
inductive Overflow
  /-- An integer parameter that is too large for what it is passed to: one of a statement that does
  not fit 64 bits, or a number of rounds that does not fit 32. -/
  | parameter
  /-- A date outside the calendar. -/
  | date
  /-- A span of time that is too long to be one. -/
  | span (days : Int)
  /-- An infinite number where an integer is due. -/
  | infinity
deriving Repr, DecidableEq

/-- Why a token is not accepted. -/
inductive TokenError
  /-- It is no token, or not one that was signed with the secret. -/
  | malformed
  /-- Its claims are not acceptable. -/
  | claims
  /-- Its time is over. -/
  | expired
  /-- A time claim is of a type that has no integer. -/
  | claimType
  /-- A time claim is infinite. -/
  | claimInfinite
  /-- The secret cannot be used as a key to check tokens. -/
  | key
  /-- The secret describes a key without its octets. -/
  | keyMember
  /-- The secret describes a key whose octets are not in base 64. -/
  | keyText
  /-- The secret has something other than a list in the place of its keys. -/
  | keyList
  /-- The secret cannot be used as a key to sign tokens. -/
  | signingKey
deriving Repr, DecidableEq

/-- Why an operation stops. -/
inductive Failure
  | refused (r : Refusal)
  | invalid (errors : List Form.FieldError)
  | uncompilable (e : CompileError)
  | overflow (o : Overflow)
  /-- The store of tables refuses the statement. -/
  | storage
  /-- An argument of the wrong kind. -/
  | wrongType
  /-- A read-only attribute was set. -/
  | readOnly
  /-- A password too long to be hashed. -/
  | oversizedPassword
  | token (e : TokenError)
deriving Repr, DecidableEq

end Backoffice
