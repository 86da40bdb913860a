import Backoffice.Json.Basic
import Backoffice.Text.Hex
import Backoffice.Text.Numeral

/-!
# Reading JSON

A reader for one JSON value with nothing but blanks around it.  It knows the words `NaN`,
`Infinity` and `-Infinity` for numbers, takes the last value of a repeated field, and refuses
control characters in strings and whole numbers of too many digits.
-/

namespace Backoffice.Json

/-- The blanks of JSON. -/
def isBlank (c : Char) : Bool :=
  c == ' ' || c == '\t' || c == '\n' || c == '\r'

/-- Passes over blanks. -/
def skip (cs : List Char) : List Char :=
  cs.dropWhile isBlank

/-- A piece of a string: a character as written, or the 16-bit unit of an escape. -/
inductive Piece
  | char (c : Char)
  | unit (n : Nat)
deriving Repr, DecidableEq

/-- The unit of four hexadecimal digits. -/
def unit? (a b c d : Char) : Option Nat := do
  let a ← Text.hexValue? a
  let b ← Text.hexValue? b
  let c ← Text.hexValue? c
  let d ← Text.hexValue? d
  return ((a * 16 + b) * 16 + c) * 16 + d

/-- The character of a one-letter escape. -/
def escaped? : Char → Option Char
  | '"' => some '"'
  | '\\' => some '\\'
  | '/' => some '/'
  | 'b' => some '\x08'
  | 'f' => some '\x0c'
  | 'n' => some '\n'
  | 'r' => some '\r'
  | 't' => some '\t'
  | _ => none

/-- The pieces of a string up to its closing quotation mark, and what follows that. -/
def readPieces : List Char → Option (List Piece × List Char)
  | [] => none
  | '"' :: rest => some ([], rest)
  | '\\' :: 'u' :: a :: b :: c :: d :: rest => do
    let n ← unit? a b c d
    let (ps, rest) ← readPieces rest
    return (.unit n :: ps, rest)
  | '\\' :: e :: rest => do
    let c ← escaped? e
    let (ps, rest) ← readPieces rest
    return (.char c :: ps, rest)
  | c :: rest =>
    if c.toNat < 0x20 then none
    else do
      let (ps, rest) ← readPieces rest
      return (.char c :: ps, rest)

/-- The unit is the first half of a surrogate pair. -/
def isHigh (n : Nat) : Bool :=
  0xD800 ≤ n && n < 0xDC00

/-- The unit is the second half of a surrogate pair. -/
def isLow (n : Nat) : Bool :=
  0xDC00 ≤ n && n < 0xE000

/-- The text of the pieces; `none` if half of a surrogate pair stands alone. -/
def join? : List Piece → Option (List Char)
  | [] => some []
  | .char c :: rest => (join? rest).map (c :: ·)
  | .unit m :: .unit n :: rest =>
    if isHigh m then
      if isLow n then
        (join? rest).map (Char.ofNat (0x10000 + (m - 0xD800) * 1024 + (n - 0xDC00)) :: ·)
      else none
    else if isLow m then none
    else (join? (.unit n :: rest)).map (Char.ofNat m :: ·)
  | .unit m :: rest =>
    if isHigh m || isLow m then none else (join? rest).map (Char.ofNat m :: ·)

/-- A string after its opening quotation mark, and what follows it. -/
def readString (cs : List Char) : Option (Option String × List Char) := do
  let (pieces, rest) ← readPieces cs
  return ((join? pieces).map String.ofList, rest)

/-- The digits of a whole part: a leading zero stands alone. -/
def wholePart (cs : List Char) : List Char :=
  match cs with
  | '0' :: _ => ['0']
  | _ => cs.takeWhile Text.isDigit

/-- The digits of a fraction, if a point and at least one digit follow, and the rest. -/
def readFraction : List Char → List Char × List Char
  | '.' :: cs =>
    let digits := cs.takeWhile Text.isDigit
    if digits = [] then ([], '.' :: cs) else (digits, cs.dropWhile Text.isDigit)
  | cs => ([], cs)

/-- A number without its sign.  Without fraction and exponent it is whole. -/
def readMagnitude (negative : Bool) (cs : List Char) : Option (Json × List Char) :=
  let whole := wholePart cs
  if whole = [] then none
  else
    let (fraction, rest) := readFraction (cs.drop whole.length)
    match fraction, Text.readExponent rest with
    | [], (none, rest) =>
      if whole.length ≤ Text.maxDigits then
        some (.int (Text.signed negative (Text.natOf whole)), rest)
      else none
    | _, (exponent, rest) =>
      some (.float (.ofDecimal negative (Text.natOf (whole ++ fraction))
        (exponent.getD 0 - fraction.length)), rest)

/-- A number or a word for one. -/
def readNumber : List Char → Option (Json × List Char)
  | 'N' :: 'a' :: 'N' :: rest => some (.float .nan, rest)
  | 'I' :: 'n' :: 'f' :: 'i' :: 'n' :: 'i' :: 't' :: 'y' :: rest =>
    some (.float (.infinity false), rest)
  | '-' :: 'I' :: 'n' :: 'f' :: 'i' :: 'n' :: 'i' :: 't' :: 'y' :: rest =>
    some (.float (.infinity true), rest)
  | '-' :: rest => readMagnitude true rest
  | cs => readMagnitude false cs

mutual

/-- One value at the front, and what follows it. -/
def readValue : Nat → List Char → Option (Json × List Char)
  | 0, _ => none
  | fuel + 1, cs =>
    match cs with
    | '"' :: rest => do
      let (s, rest) ← readString rest
      return ((match s with | some s => .str s | none => .unpaired), rest)
    | '[' :: rest =>
      match skip rest with
      | ']' :: rest => some (.arr [], rest)
      | rest => do
        let (items, rest) ← readItems fuel rest
        return (.arr items, rest)
    | '{' :: rest =>
      match skip rest with
      | '}' :: rest => some (.obj [], rest)
      | rest => do
        let (pairs, rest) ← readFields fuel rest
        return (.obj (ofPairs pairs), rest)
    | 'n' :: 'u' :: 'l' :: 'l' :: rest => some (.null, rest)
    | 't' :: 'r' :: 'u' :: 'e' :: rest => some (.bool true, rest)
    | 'f' :: 'a' :: 'l' :: 's' :: 'e' :: rest => some (.bool false, rest)
    | cs => readNumber cs

/-- The items of an array up to its closing bracket, and what follows that. -/
def readItems : Nat → List Char → Option (List Json × List Char)
  | 0, _ => none
  | fuel + 1, cs => do
    let (item, rest) ← readValue fuel cs
    match skip rest with
    | ']' :: rest => return ([item], rest)
    | ',' :: rest =>
      let (items, rest) ← readItems fuel (skip rest)
      return (item :: items, rest)
    | _ => none

/-- The fields of an object up to its closing brace, and what follows that.  A name that is no
text names no field, and its value is dropped. -/
def readFields : Nat → List Char → Option (List (String × Json) × List Char)
  | 0, _ => none
  | fuel + 1, cs =>
    match cs with
    | '"' :: rest => do
      let (name, rest) ← readString rest
      match skip rest with
      | ':' :: rest =>
        let (value, rest) ← readValue fuel (skip rest)
        let field := match name with | some name => [(name, value)] | none => []
        match skip rest with
        | '}' :: rest => return (field, rest)
        | ',' :: rest =>
          let (pairs, rest) ← readFields fuel (skip rest)
          return (field ++ pairs, rest)
        | _ => none
      | _ => none
    | _ => none

end

/-- The value of a JSON text. -/
def parse? (cs : List Char) : Option Json := do
  let (value, rest) ← readValue (2 * cs.length + 2) (skip cs)
  if skip rest = [] then some value else none

end Backoffice.Json
