import Backoffice.Calendar.Moment
import Backoffice.Text.Numeral

/-!
# The text of moments

Writing wall clock times and moments in the ISO form, and reading them from text or from a
number.  The reader takes the written form and some variations of it: other separators, seconds
left out, a comma before the fraction, a fraction of any length, an offset without a colon.  A
number counts seconds from the beginning of the year 1970, or milliseconds if it is large.
-/

namespace Backoffice

open Text (padded isDigit natOf)

namespace Date

/-- Year, month and day with hyphens. -/
def text (d : Date) : String :=
  padded 4 d.year ++ "-" ++ padded 2 d.month ++ "-" ++ padded 2 d.day

end Date

namespace WallTime

/-- Hours, minutes and seconds with colons. -/
def clockText (t : WallTime) : String :=
  let seconds := t.ofDay / secondMicros
  padded 2 (seconds / 3600) ++ ":" ++ padded 2 (seconds / 60 % 60) ++ ":" ++ padded 2 (seconds % 60)

/-- The microseconds of the second. -/
def micro (t : WallTime) : Nat :=
  t.ofDay % secondMicros

/-- Date and time with a `T` between them and with a fraction of six digits unless it is zero. -/
def text (t : WallTime) : String :=
  t.date.text ++ "T" ++ t.clockText ++ if t.micro = 0 then "" else "." ++ padded 6 t.micro

/-- Date and time as a table stores them: a blank between them and always six digits of
fraction. -/
def storedText (t : WallTime) : String :=
  t.date.text ++ " " ++ t.clockText ++ "." ++ padded 6 t.micro

end WallTime

namespace Offset

/-- Sign, hours and minutes. -/
def text (o : Offset) : String :=
  (if o.minutes < 0 then "-" else "+") ++ padded 2 (o.minutes.natAbs / 60) ++ ":" ++
    padded 2 (o.minutes.natAbs % 60)

end Offset

namespace Moment

/-- Date and time, followed by the offset if there is one. -/
def text (m : Moment) : String :=
  m.wall.text ++ match m.offset with | some o => o.text | none => ""

/-- Date and time, followed by the offset if there is one; UTC is written `Z`. -/
def zuluText (m : Moment) : String :=
  m.wall.text ++
    match m.offset with
    | some o => if o.minutes = 0 then "Z" else o.text
    | none => ""

/-- The number of the two digits `a` and `b`. -/
def twoDigits? (a b : Char) : Option Nat :=
  if isDigit a && isDigit b then some (natOf [a, b]) else none

/-- A date at the front of a text, whether or not it exists, and what follows it. -/
def readDate? : List Char → Option (Date × List Char)
  | a :: b :: c :: d :: '-' :: e :: f :: '-' :: g :: h :: rest =>
    if [a, b, c, d].all isDigit then do
      let month ← twoDigits? e f
      let day ← twoDigits? g h
      return (⟨natOf [a, b, c, d], month, day⟩, rest)
    else none
  | _ => none

/-- The characters that may stand between date and time. -/
def isSeparator (c : Char) : Bool :=
  c == 'T' || c == 't' || c == '_' || c == ' '

/-- The microseconds of a fraction after its mark, of whose digits the first six count, and what
follows it. -/
def readFraction? (cs : List Char) : Option (Nat × List Char) :=
  let digits := cs.takeWhile isDigit
  if digits = [] then none
  else some (natOf ((digits ++ List.replicate 6 '0').take 6), cs.dropWhile isDigit)

/-- Seconds and microseconds, both optional, and what follows them. -/
def readSeconds? : List Char → Option (Nat × Nat × List Char)
  | ':' :: a :: b :: rest => do
    let second ← twoDigits? a b
    match rest with
    | mark :: tail =>
      if mark = '.' ∨ mark = ',' then
        let (micro, rest) ← readFraction? tail
        return (second, micro, rest)
      else return (second, 0, rest)
    | [] => return (second, 0, [])
  | rest => some (0, 0, rest)

/-- The offset of hours and minutes east of UTC, or west of it. -/
def offset? (west : Bool) (hours minutes : Nat) : Option Offset :=
  if hours < 24 ∧ minutes < 60 then
    let n : Int := if west then -((hours * 60 + minutes : Nat) : Int) else (hours * 60 + minutes : Nat)
    if h : n.natAbs < 1440 then some ⟨n, h⟩ else none
  else none

/-- An offset that makes up the whole text, which is `none` for the empty text. -/
def readOffset? : List Char → Option (Option Offset)
  | [] => some none
  | [c] => if c = 'Z' ∨ c = 'z' then some (some .utc) else none
  | sign :: a :: b :: rest => do
    let west ←
      if sign = '+' then some false else if sign = '-' ∨ sign = '\u2212' then some true else none
    let hours ← twoDigits? a b
    let minutes ←
      match rest with
      | [':', c, d] => twoDigits? c d
      | [c, d] => twoDigits? c d
      | _ => none
    return some (← offset? west hours minutes)
  | _ => none

/-- A moment in the ISO form.  A date alone is its midnight. -/
def ofIso? (cs : List Char) : Option Moment := do
  let (date, rest) ← readDate? cs
  match rest with
  | [] => return ⟨← WallTime.ofFields? date 0 0 0 0, none⟩
  | separator :: a :: b :: ':' :: c :: d :: rest =>
    if isSeparator separator then
      let hour ← twoDigits? a b
      let minute ← twoDigits? c d
      let (second, micro, rest) ← readSeconds? rest
      let offset ← readOffset? rest
      return ⟨← WallTime.ofFields? date hour minute second micro, offset⟩
    else none
  | _ => none

/-- Up to this magnitude a number counts seconds, beyond it milliseconds. -/
def secondsLimit : Nat := 20000000000

/-- The microseconds of the unit that a number of the magnitude `num / den` counts. -/
def unitMicros (num den : Nat) : Nat :=
  if secondsLimit * den < num then 1000 else secondMicros

/-- The moment in UTC that lies microseconds after the beginning of the year 1970. -/
def ofUnixMicros? (micros : Int) : Option Moment :=
  (WallTime.unixEpoch.add? micros).map .utc

/-- The moment of an integer. -/
def ofUnix? (n : Int) : Option Moment :=
  ofUnixMicros? (n * unitMicros n.natAbs 1)

/-- The product of a fraction and a whole number in binary floating-point arithmetic, to the
nearest whole number, and half a one upward. -/
def scaledFraction (num den unit : Nat) : Nat :=
  match (Binary64.ofRatio false (num * unit) den).ratio? with
  | some (_, n, d) => (2 * n + d) / (2 * d)
  | none => 0

/-- The moment of a floating-point number.  It is rounded down to whole units, and what it has
beyond them is rounded to microseconds. -/
def ofFloat? (x : Binary64) : Option Moment := do
  let (negative, num, den) ← x.ratio?
  let unit := unitMicros num den
  let beyond := if negative then (den - num % den) % den else num % den
  let (_, n, d) ← (Binary64.ofRatio false beyond den).ratio?
  ofUnixMicros? (x.floor * unit + scaledFraction n d unit)

/-- The whole part of a decimal number with a point is below this bound. -/
def wholeLimit : Nat := 922337203685477581

/-- A moment written as a decimal number.  Digits may be missing on one side of the point, and
behind a point there may be a power of ten. -/
def ofNumeral? (cs : List Char) : Option Moment :=
  let (negative, body) := Text.takeSign cs
  let whole := body.takeWhile isDigit
  match body.dropWhile isDigit with
  | [] => if whole = [] then none else ofUnix? (Text.signed negative (natOf whole))
  | '.' :: tail =>
    let fraction := tail.takeWhile isDigit
    let (exponent, rest) := Text.readExponent (tail.dropWhile isDigit)
    if whole ++ fraction ≠ [] ∧ rest = [] ∧ natOf whole < wholeLimit then
      ofFloat? (.ofDecimal negative (natOf (whole ++ fraction))
        (exponent.getD 0 - fraction.length))
    else none
  | _ => none

/-- The moment that a text denotes. -/
def ofText? (s : String) : Option Moment :=
  (ofIso? s.toList).or (ofNumeral? s.toList)

end Moment

end Backoffice
