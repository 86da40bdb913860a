import Backoffice.Text.Blank

/-!
# Numerals

Reading whole numbers from text.  `int?` takes the decimal digits of every script, with single
underscores between them.  `plainInt` takes ASCII digits only; a numeral that is not canonical
is tidied first, which drops blanks, a plus sign, zeros in front, a fraction of zeros and single
underscores.
-/

namespace Backoffice.Text

/-- The code points of the digit zero in the scripts that have decimal digits; the other nine
digits follow each. -/
def decimalZeros : List Nat :=
  [
    0x30, 0x660, 0x6F0, 0x7C0, 0x966, 0x9E6, 0xA66, 0xAE6, 0xB66, 0xBE6, 0xC66, 0xCE6, 0xD66,
    0xDE6, 0xE50, 0xED0, 0xF20, 0x1040, 0x1090, 0x17E0, 0x1810, 0x1946, 0x19D0, 0x1A80, 0x1A90,
    0x1B50, 0x1BB0, 0x1C40, 0x1C50, 0xA620, 0xA8D0, 0xA900, 0xA9D0, 0xA9F0, 0xAA50, 0xABF0,
    0xFF10, 0x104A0, 0x10D30, 0x11066, 0x110F0, 0x11136, 0x111D0, 0x112F0, 0x11450, 0x114D0,
    0x11650, 0x116C0, 0x11730, 0x118E0, 0x11950, 0x11C50, 0x11D50, 0x11DA0, 0x16A60, 0x16AC0,
    0x16B50, 0x1D7CE, 0x1D7D8, 0x1D7E2, 0x1D7EC, 0x1D7F6, 0x1E140, 0x1E2F0, 0x1E950, 0x1FBF0
  ]

/-- The value of a decimal digit of any script. -/
def decimalDigit? (c : Char) : Option Nat :=
  (decimalZeros.find? fun z => z ≤ c.toNat && c.toNat < z + 10).map (c.toNat - ·)

/-- The value of an ASCII digit. -/
def asciiDigit? (c : Char) : Option Nat :=
  if '0' ≤ c ∧ c ≤ '9' then some (c.toNat - 48) else none

/-- The character is an ASCII digit. -/
def isDigit (c : Char) : Bool :=
  (asciiDigit? c).isSome

/-- The number that the digits write, most significant first. -/
def ofDigits (ds : List Nat) : Nat :=
  ds.foldl (fun n d => 10 * n + d) 0

/-- The number of the ASCII digits `cs`. -/
def natOf (cs : List Char) : Nat :=
  ofDigits (cs.map fun c => c.toNat - 48)

/-- The digits of a run that may have single underscores between digits. -/
def groupedDigits? : List Char → Option (List Nat)
  | [] => none
  | [c] => (decimalDigit? c).map fun d => [d]
  | c :: '_' :: rest => do
    let d ← decimalDigit? c
    let ds ← groupedDigits? rest
    return d :: ds
  | c :: rest => do
    let d ← decimalDigit? c
    let ds ← groupedDigits? rest
    return d :: ds

/-- Takes an optional sign: whether it is a minus, and the rest. -/
def takeSign : List Char → Bool × List Char
  | '-' :: rest => (true, rest)
  | '+' :: rest => (false, rest)
  | cs => (false, cs)

/-- The integer of a sign and a magnitude. -/
def signed (negative : Bool) (n : Nat) : Int :=
  if negative then -(n : Int) else n

/-- A numeral of more digits than this is not read. -/
def maxDigits : Nat := 4300

/-- The integer that a text denotes: white space around it, a sign and underscores between
digits are allowed, and the digits may be of any script. -/
def int? (cs : List Char) : Option Int := do
  let (negative, body) := takeSign (trimBy isSpace cs)
  let ds ← groupedDigits? body
  if ds.length ≤ maxDigits then some (signed negative (ofDigits ds)) else none

/-- Why a numeral is not read. -/
inductive NumeralFault
  | malformed
  | tooLong
deriving Repr, DecidableEq

/-- The integer of a canonical numeral: a zero, or ASCII digits that do not begin with a zero,
after an optional minus sign.  Too many digits are found before what follows them. -/
def canonicalInt (cs : List Char) : Except NumeralFault Int :=
  let (negative, body) := match cs with
    | '-' :: rest => (true, rest)
    | _ => (false, cs)
  let digits := body.takeWhile isDigit
  if body = ['0'] then .ok 0
  else if digits = [] ∨ digits.head? = some '0' then .error .malformed
  else if maxDigits < digits.length then .error .tooLong
  else if digits = body then .ok (signed negative (natOf digits))
  else .error .malformed

/-- Drops the zeros in front of a numeral and the underscores among them.  The last zero stays
if no digit follows.  A minus sign is let through behind a zero, where it counts as the sign;
in front a numeral has a digit. -/
def dropZeros? (cs : List Char) : Option (List Char) :=
  let isFiller (c : Char) : Bool := c == '0' || c == '_'
  let zeros := cs.takeWhile isFiller
  let rest := cs.dropWhile isFiller
  if zeros = [] then
    if rest.head?.any isDigit then some rest else none
  else if zeros.head? ≠ some '0' then none
  else if rest.head?.any fun c => isDigit c || c == '-' then some rest
  else if rest.head?.all (· == '.') ∧ zeros.getLast? = some '0' then some ('0' :: rest)
  else none

/-- Drops a fraction that consists of zeros. -/
def dropZeroFraction (cs : List Char) : List Char :=
  match cs.dropWhile (· != '.') with
  | '.' :: '0' :: fraction =>
    if fraction.all (· == '0') then cs.takeWhile (· != '.') else cs
  | _ => cs

/-- Two underscores stand side by side. -/
def hasDoubleUnderscore : List Char → Bool
  | '_' :: '_' :: _ => true
  | _ :: rest => hasDoubleUnderscore rest
  | [] => false

/-- Drops the underscores if each stands alone between other characters. -/
def dropUnderscores (cs : List Char) : List Char :=
  if cs.head? = some '_' ∨ cs.getLast? = some '_' ∨ hasDoubleUnderscore cs then cs
  else cs.filter (· != '_')

/-- A numeral without blanks around it, plus sign, zeros in front, fraction of zeros and
underscores. -/
def tidied? (cs : List Char) : Option (List Char) :=
  let (negative, body) := takeSign (trimBy isSpace cs)
  (dropZeros? body).map fun body =>
    let body := dropUnderscores (dropZeroFraction body)
    if negative then '-' :: body else body

/-- The integer of a plain numeral, which is canonical or becomes so when it is tidied. -/
def plainInt (cs : List Char) : Except NumeralFault Int :=
  match canonicalInt cs with
  | .error .malformed =>
    match tidied? cs with
    | some cs => canonicalInt cs
    | none => .error .malformed
  | result => result

/-- The power of ten after a mark, if at least one digit follows the mark, and what comes after
it. -/
def readExponent (cs : List Char) : Option Int × List Char :=
  match cs with
  | mark :: tail =>
    if mark = 'e' ∨ mark = 'E' then
      let (negative, body) := takeSign tail
      let digits := body.takeWhile isDigit
      if digits = [] then (none, cs)
      else (some (signed negative (natOf digits)), body.dropWhile isDigit)
    else (none, cs)
  | [] => (none, cs)

/-- The decimal text of an integer. -/
def decimal (n : Int) : String :=
  if n < 0 then "-" ++ Nat.repr n.natAbs else Nat.repr n.natAbs

/-- The decimal text of a number, filled with zeros on the left to `width` characters. -/
def padded (width n : Nat) : String :=
  let digits := Nat.toDigits 10 n
  String.ofList (List.replicate (width - digits.length) '0' ++ digits)

end Backoffice.Text
