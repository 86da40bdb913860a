import Backoffice.Form.Fault
import Backoffice.Json.Basic
import Backoffice.Calendar.IsoText
import Backoffice.Number.Word
import Backoffice.Text.Case

/-!
# Reading fields

How a JSON value is taken for an integer, a truth value, a text or a moment, and how the fields
of an object are found under their names and checked.  Numbers, truth values and moments may
also be written as texts, as they arrive in a query string.
-/

namespace Backoffice.Form

open Text

/-- A text taken for an integer. -/
def textAsInt (s : String) : Except Fault Int :=
  match plainInt s.toList with
  | .ok n => .ok n
  | .error .malformed => .error .unreadableInt
  | .error .tooLong => .error .oversizedInt

/-- A floating-point number taken for an integer, which must not be as large as the limit. -/
def floatAsInt (x : Binary64) : Except Fault Int :=
  match x.ratio?, x.int? with
  | none, _ => .error .infiniteNumber
  | some _, none => .error .fractionalInt
  | some _, some n => if -wordLimit < n ∧ n < wordLimit then .ok n else .error .oversizedInt

/-- A value taken for an integer. -/
def asInt : Json → Except Fault Int
  | .bool b => .ok (if b then 1 else 0)
  | .int n => .ok n
  | .float x => floatAsInt x
  | .str s => textAsInt s
  | .unpaired => .error .unreadableInt
  | _ => .error .notInt

/-- The texts that count as true, in lower case. -/
def trueTexts : List String := ["1", "on", "t", "true", "y", "yes"]

/-- The texts that count as false, in lower case. -/
def falseTexts : List String := ["0", "off", "f", "false", "n", "no"]

/-- A text taken for a truth value. -/
def textAsBool (s : String) : Except Fault Bool :=
  let word := asciiLower s
  if word ∈ trueTexts then .ok true
  else if word ∈ falseTexts then .ok false
  else .error .unreadableBool

/-- An integer taken for a truth value.  Beyond 64 bits it is no candidate at all. -/
def intAsBool (n : Int) : Except Fault Bool :=
  if n = 0 then .ok false
  else if n = 1 then .ok true
  else if fitsWord n then .error .unreadableBool
  else .error .notBool

/-- A floating-point number taken for a truth value, if it is an integer. -/
def floatAsBool (x : Binary64) : Except Fault Bool :=
  match floatAsInt x with
  | .ok n => intAsBool n
  | .error _ => .error .notBool

/-- A value taken for a truth value. -/
def asBool : Json → Except Fault Bool
  | .bool b => .ok b
  | .int n => intAsBool n
  | .float x => floatAsBool x
  | .str s => textAsBool s
  | .unpaired => .error .unreadableBool
  | _ => .error .notBool

/-- A value taken for a text: nothing but a text is one. -/
def asText : Json → Except Fault String
  | .str s => .ok s
  | _ => .error .notText

/-- A value taken for a moment: a number of seconds or milliseconds, or a text. -/
def asMoment (v : Json) : Except Fault Moment :=
  let moment? := match v with
    | .int n => Moment.ofUnix? n
    | .float x => Moment.ofFloat? x
    | .str s => Moment.ofText? s
    | _ => none
  match moment? with
  | some m => .ok m
  | none => .error .notMoment

/-- A text of at least `least` characters. -/
def asLongText (least : Nat) (v : Json) : Except Fault String := do
  let s ← asText v
  if s.length < least then .error (.tooShort least) else .ok s

/-- A value that may also be null. -/
def orNull {α : Type} (read : Json → Except Fault α) : Json → Except Fault (Option α)
  | .null => .ok none
  | v => (read v).map some

/-- A field as it was looked up: the name to report, and the value if there is one. -/
structure Slot where
  name : String
  value : Option Json
deriving Repr, Inhabited

/-- The field under the first of the names that is present.  Without any the first name is
reported. -/
def find (names : List String) (fields : List (String × Json)) : Slot :=
  match names.find? fun name => (fields.lookup name).isSome with
  | some name => ⟨name, fields.lookup name⟩
  | none => ⟨names.headD "", none⟩

namespace Slot

variable {α : Type}

/-- The value of a field that has to be there. -/
def required (slot : Slot) (read : Json → Except Fault α) : Checked α :=
  match slot.value with
  | none => .failed [⟨[slot.name], .missing⟩]
  | some v =>
    match read v with
    | .ok a => .ok a
    | .error fault => .failed [⟨[slot.name], fault⟩]

/-- The value of a field that has the value `absent` when it is not there. -/
def default (slot : Slot) (absent : α) (read : Json → Except Fault α) : Checked α :=
  match slot.value with
  | none => .ok absent
  | some _ => slot.required read

end Slot

/-- Reads a form from the fields of an object; any other value is refused as no form of the
name. -/
def ofObject {α : Type} (name : String) (read : List (String × Json) → Checked α) :
    Json → Checked α
  | .obj fields => read fields
  | _ => .failed [⟨[], .notRecord name⟩]

end Backoffice.Form
