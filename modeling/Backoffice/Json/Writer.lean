import Backoffice.Json.Basic
import Backoffice.Text.Hex
import Backoffice.Text.Numeral

/-!
# Writing JSON

One writer for all forms of JSON text; a `Style` holds what they differ in.
-/

namespace Backoffice.Json

/-- What the forms of JSON text differ in: the separators, and whether characters beyond ASCII
are escaped. -/
structure Style where
  itemSeparator : String
  fieldSeparator : String
  asciiOnly : Bool
deriving Repr, DecidableEq

/-- No blanks, all characters in ASCII. -/
def Style.compact : Style := ⟨",", ":", true⟩

/-- No blanks, characters beyond ASCII as they are. -/
def Style.dense : Style := ⟨",", ":", false⟩

/-- A blank after each separator, all characters in ASCII. -/
def Style.spaced : Style := ⟨", ", ": ", true⟩

/-- A blank after each separator, characters beyond ASCII as they are. -/
def Style.readable : Style := ⟨", ", ": ", false⟩

/-- The lower-case hexadecimal digit of a value below sixteen. -/
def unitDigit (n : Nat) : Char :=
  Text.hexDigit 'a' n

/-- The escape of a 16-bit unit. -/
def unitEscape (n : Nat) : List Char :=
  ['\\', 'u', unitDigit (n / 4096 % 16), unitDigit (n / 256 % 16), unitDigit (n / 16 % 16),
    unitDigit (n % 16)]

/-- The escape of a character by its code, as a surrogate pair beyond the 16-bit range. -/
def codeEscape (n : Nat) : List Char :=
  if n < 0x10000 then unitEscape n
  else unitEscape (0xD800 + (n - 0x10000) / 1024) ++ unitEscape (0xDC00 + (n - 0x10000) % 1024)

/-- A character inside a string. -/
def writeChar (style : Style) (c : Char) : List Char :=
  if c = '"' then ['\\', '"']
  else if c = '\\' then ['\\', '\\']
  else if c = '\n' then ['\\', 'n']
  else if c = '\r' then ['\\', 'r']
  else if c = '\t' then ['\\', 't']
  else if c = '\x08' then ['\\', 'b']
  else if c = '\x0c' then ['\\', 'f']
  else if c.toNat < 0x20 then unitEscape c.toNat
  else if style.asciiOnly ∧ 0x7E < c.toNat then codeEscape c.toNat
  else [c]

/-- A string with its quotation marks. -/
def writeString (style : Style) (s : String) : List Char :=
  '"' :: s.toList.flatMap (writeChar style) ++ ['"']

mutual

/-- The text of a value. -/
def write (style : Style) : Json → List Char
  | .null => "null".toList
  | .bool true => "true".toList
  | .bool false => "false".toList
  | .int n => (Text.decimal n).toList
  | .float x => x.text
  | .str s => writeString style s
  | .unpaired => writeString style "\uFFFD"
  | .arr items => '[' :: writeItems style items ++ [']']
  | .obj fields => '{' :: writeFields style fields ++ ['}']

/-- The texts of the items, separated. -/
def writeItems (style : Style) : List Json → List Char
  | [] => []
  | [x] => write style x
  | x :: y :: rest => write style x ++ style.itemSeparator.toList ++ writeItems style (y :: rest)

/-- The texts of the fields, separated. -/
def writeFields (style : Style) : List (String × Json) → List Char
  | [] => []
  | [(k, x)] => writeString style k ++ style.fieldSeparator.toList ++ write style x
  | (k, x) :: f :: rest =>
    writeString style k ++ style.fieldSeparator.toList ++ write style x ++
      style.itemSeparator.toList ++ writeFields style (f :: rest)

end

/-- The text of a value in the given style. -/
def render (style : Style) (v : Json) : String :=
  String.ofList (v.write style)

end Backoffice.Json
