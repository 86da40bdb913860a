import Backoffice.Json.Basic
import Backoffice.Text.Numeral

/-!
# Labels

The text by which a value goes where a label is due.  Null, false, zero and everything empty have
the empty label.
-/

namespace Backoffice

/-- The label of a number. -/
def Binary64.label : Binary64 → String
  | .nan => "nan"
  | .infinity false => "inf"
  | .infinity true => "-inf"
  | x => String.ofList x.text

namespace Json

/-- The escape of a character that does not print: two hexadecimal digits. -/
def hexEscape (n : Nat) : List Char :=
  ['\\', 'x', Nat.digitChar (n / 16), Nat.digitChar (n % 16)]

/-- A text between quotation marks, single ones unless only they occur in it. -/
def quoted (s : String) : String :=
  let mark := if s.contains '\'' && !s.contains '"' then '"' else '\''
  let escape (c : Char) : List Char :=
    if c = '\\' ∨ c = mark then ['\\', c]
    else if c = '\n' then ['\\', 'n']
    else if c = '\r' then ['\\', 'r']
    else if c = '\t' then ['\\', 't']
    else if c.toNat < 32 ∨ (0x7F ≤ c.toNat ∧ c.toNat ≤ 0xA0) ∨ c.toNat = 0xAD then
      hexEscape c.toNat
    else [c]
  String.ofList (mark :: s.toList.flatMap escape ++ [mark])

mutual

/-- The text of a value inside another one. -/
def inner : Json → String
  | .null => "None"
  | .bool true => "True"
  | .bool false => "False"
  | .int n => Text.decimal n
  | .float x => x.label
  | .str s => quoted s
  | .unpaired => quoted "\uFFFD"
  | .arr items => "[" ++ innerItems items ++ "]"
  | .obj fields => "\x7b" ++ innerFields fields ++ "\x7d"

/-- The texts of items, separated. -/
def innerItems : List Json → String
  | [] => ""
  | [x] => inner x
  | x :: y :: rest => inner x ++ ", " ++ innerItems (y :: rest)

/-- The texts of fields, separated. -/
def innerFields : List (String × Json) → String
  | [] => ""
  | [(k, x)] => quoted k ++ ": " ++ inner x
  | (k, x) :: f :: rest => quoted k ++ ": " ++ inner x ++ ", " ++ innerFields (f :: rest)

end

/-- The value counts as nothing. -/
def isEmpty : Json → Bool
  | .null | .bool false | .int 0 | .arr [] | .obj [] => true
  | .float (.finite _ 0 _) => true
  | .str s => s == ""
  | _ => false

/-- The label of the value. -/
def label (v : Json) : String :=
  if v.isEmpty then ""
  else
    match v with
    | .str s => s
    | v => v.inner

end Json

end Backoffice
