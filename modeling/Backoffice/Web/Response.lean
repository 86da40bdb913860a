import Backoffice.Form.Fault
import Backoffice.Json.Writer
import Backoffice.Text.Blank
import Backoffice.Text.Case

/-!
# Responses

What is answered, with the headers that every answer carries: a request id, a ban on caching, the
headers that harden a browser, and those that let pages of known origins read the answer.
-/

namespace Backoffice.Web

/-- The body of an answer. -/
inductive Body
  | json (v : Json)
  | text (s : String)
deriving Repr

/-- An answer. -/
structure Response where
  status : Nat
  body : Body
  headers : List (String × String)
deriving Repr

/-- The characters of a request id. -/
def isRequestIdChar (c : Char) : Bool :=
  c.isAlphanum || c == '.' || c == '_' || c == '-'

/-- The request id that a client gave, if it is a proper one. -/
def keptRequestId (raw : String) : Option String :=
  let id := Text.strip raw
  if id ≠ "" ∧ id.toList.all isRequestIdChar ∧ id.length ≤ 128 then some id else none

/-- The headers that harden a browser. -/
def hardening : List (String × String) :=
  [
    ("X-Content-Type-Options", "nosniff"),
    ("X-Frame-Options", "DENY"),
    ("Referrer-Policy", "no-referrer"),
    ("Cross-Origin-Opener-Policy", "same-origin"),
    ("Cross-Origin-Resource-Policy", "same-origin")
  ]

/-- The headers for a page of the given origin. -/
def originHeaders (allowed : List String) : Option String → List (String × String)
  | none => []
  | some origin =>
    ("Access-Control-Allow-Credentials", "true") ::
      if origin ∈ allowed then
        [("Access-Control-Allow-Origin", origin), ("Vary", "Origin")]
      else []

/-- The text that is sent for a body. -/
def Body.content : Body → String
  | .json v => v.render .dense
  | .text s => s

/-- The type of a body. -/
def Body.contentType : Body → String
  | .json _ => "application/json"
  | .text _ => "text/plain; charset=utf-8"

/-- The headers that tell what the body is and how many octets it has. -/
def Body.contentHeaders (b : Body) : List (String × String) :=
  [("Content-Type", b.contentType), ("Content-Length", Nat.repr b.content.utf8ByteSize)]

/-- The headers that every answer carries. -/
def answerHeaders (allowed : List String) (origin : Option String) (requestId : String) :
    List (String × String) :=
  originHeaders allowed origin ++ hardening ++
    [("Cache-Control", "no-store"), ("X-Request-ID", requestId)]

/-- The value of a header of an answer; the letter case of its name does not matter. -/
def Response.header (r : Response) (name : String) : Option String :=
  (r.headers.find? fun h => Text.asciiLower h.1 == Text.asciiLower name).map (·.2)

end Backoffice.Web
