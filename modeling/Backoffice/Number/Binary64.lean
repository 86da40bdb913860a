/-!
# Binary floating-point numbers

Numbers of the 64-bit binary format as exact values: a sign, a mantissa below `2 ^ 53` and a
power of two.  `ofRatio` and `ofDecimal` round to the nearest such number, with ties to the
even mantissa; everything else is exact arithmetic.
-/

namespace Backoffice

-- Powers are those of the standard library, whatever else is imported.
attribute [local instance (high)] instPowNat

/-- A number of the 64-bit binary format.  A finite one has the value
`mantissa * 2 ^ exponent`, negated when `negative`. -/
inductive Binary64
  | nan
  | infinity (negative : Bool)
  | finite (negative : Bool) (mantissa : Nat) (exponent : Int)
deriving Repr, DecidableEq, Inhabited

/-- The whole number nearest to `num / den`, the even one of two that are equally near. -/
def roundHalfEven (num den : Nat) : Nat :=
  let q := num / den
  let twice := 2 * (num % den)
  if twice < den then q
  else if den < twice then q + 1
  else q + q % 2

/-- The quotient of integers rounded toward zero. -/
def truncateRatio (negative : Bool) (num den : Nat) : Int :=
  if negative then -((num / den : Nat) : Int) else ((num / den : Nat) : Int)

namespace Binary64

/-- The exponent of the smallest positive number. -/
def minExponent : Int := -1074

/-- The largest exponent of a mantissa with 53 bits. -/
def maxExponent : Int := 971

/-- The fraction `num / den` divided by `2 ^ exponent`, again as a fraction. -/
def scale (num den : Nat) (exponent : Int) : Nat × Nat :=
  if exponent < 0 then (num * 2 ^ exponent.natAbs, den) else (num, den * 2 ^ exponent.natAbs)

/-- The exponent at which `num / den` has a whole part of at most 53 bits, and of exactly 53
unless that would fall below the smallest exponent. -/
def exponentFor (num den : Nat) : Int :=
  let guess := max minExponent ((Nat.log2 num : Int) - Nat.log2 den - 53)
  let (n, d) := scale num den guess
  if n / d < 2 ^ (53 : Nat) then guess else guess + 1

/-- The number nearest to `num / den`. -/
def ofRatio (negative : Bool) (num den : Nat) : Binary64 :=
  if num = 0 then .finite negative 0 0
  else
    let exponent := exponentFor num den
    let (n, d) := scale num den exponent
    let mantissa := roundHalfEven n d
    let (mantissa, exponent) :=
      if mantissa = 2 ^ (53 : Nat) then (2 ^ (52 : Nat), exponent + 1) else (mantissa, exponent)
    if maxExponent < exponent then .infinity negative
    else .finite negative mantissa exponent

/-- The number nearest to `digits * 10 ^ exponent`. -/
def ofDecimal (negative : Bool) (digits : Nat) (exponent : Int) : Binary64 :=
  let places := ((Nat.toDigits 10 digits).length : Int) + exponent
  if digits = 0 ∨ places < -330 then .finite negative 0 0
  else if 330 < places then .infinity negative
  else if exponent < 0 then ofRatio negative digits (10 ^ exponent.natAbs)
  else ofRatio negative (digits * 10 ^ exponent.natAbs) 1

/-- The sign and the magnitude of a finite number, as a fraction. -/
def ratio? : Binary64 → Option (Bool × Nat × Nat)
  | .finite negative mantissa exponent =>
    if exponent < 0 then some (negative, mantissa, 2 ^ exponent.natAbs)
    else some (negative, mantissa * 2 ^ exponent.natAbs, 1)
  | _ => none

/-- The integer part, rounded toward zero. -/
def truncate? (x : Binary64) : Option Int :=
  x.ratio?.map fun (negative, num, den) => truncateRatio negative num den

/-- The integer that the number is, if it is one. -/
def int? (x : Binary64) : Option Int :=
  match x.ratio? with
  | some (negative, num, den) =>
    if num % den = 0 then some (truncateRatio negative num den) else none
  | none => none

/-- The greatest integer that is not above the number; zero if there is none. -/
def floor (x : Binary64) : Int :=
  match x.ratio? with
  | some (true, num, den) => -(((num + den - 1) / den : Nat) : Int)
  | some (false, num, den) => ((num / den : Nat) : Int)
  | none => 0

/-- The decimal `digits * 10 ^ exponent` is read back as a number of this magnitude. -/
def readsBack (num den : Nat) (digits : Nat) (exponent : Int) : Bool :=
  ofDecimal false digits exponent == ofRatio false num den

/-- The decimal exponent of the first digit of `num / den`. -/
def leadingPlace (num den : Nat) : Int :=
  if den ≤ num then ((Nat.toDigits 10 (num / den)).length : Int) - 1
  else
    let shift := (Nat.toDigits 10 (den / num)).length
    if den ≤ num * 10 ^ (shift - 1) then -((shift : Int) - 1) else -(shift : Int)

/-- The shortest decimal, of at least `count` digits and of `count + fuel` at the most, that
reads back as `num / den`; of the two candidates of a length the nearer one is preferred. -/
def shortestFrom (num den : Nat) (place : Int) : Nat → Nat → Nat × Int
  | 0, count => (0, place - count)
  | fuel + 1, count =>
    let exponent := place - count + 1
    let (n, d) :=
      if exponent < 0 then (num * 10 ^ exponent.natAbs, den) else (num, den * 10 ^ exponent.natAbs)
    let near := roundHalfEven n d
    let far := if near * d ≤ n then near + 1 else near - 1
    if readsBack num den near exponent then (near, exponent)
    else if readsBack num den far exponent then (far, exponent)
    else shortestFrom num den place fuel (count + 1)

/-- The shortest decimal that reads back as `num / den`: its digits and its exponent. -/
def shortest (num den : Nat) : Nat × Int :=
  shortestFrom num den (leadingPlace num den) 17 1

/-- The text of the digits with the point after `point` of them. -/
def positional (digits : List Char) (point : Int) : List Char :=
  if point ≤ 0 then ['0', '.'] ++ List.replicate point.natAbs '0' ++ digits
  else if (digits.length : Int) ≤ point then
    digits ++ List.replicate (point.natAbs - digits.length) '0' ++ ['.', '0']
  else digits.take point.natAbs ++ '.' :: digits.drop point.natAbs

/-- The text of the digits as one digit, a fraction and a power of ten. -/
def scientific (digits : List Char) (point : Int) : List Char :=
  let power := point - 1
  let magnitude := Nat.toDigits 10 power.natAbs
  let fraction := digits.drop 1
  digits.take 1 ++ (if fraction = [] then [] else '.' :: fraction) ++
    ['e', if power < 0 then '-' else '+'] ++
    (if magnitude.length < 2 then '0' :: magnitude else magnitude)

/-- The text of a magnitude: the fewest digits that read back, positional from `0.0001` up to
below `10 ^ 16` and with an exponent of at least two digits beyond. -/
def magnitudeText (num den : Nat) : List Char :=
  if num = 0 then ['0', '.', '0']
  else
    let (n, exponent) := shortest num den
    let all := Nat.toDigits 10 n
    let digits := (all.reverse.dropWhile (· == '0')).reverse
    let point := (all.length : Int) + exponent
    if -4 < point ∧ point ≤ 16 then positional digits point else scientific digits point

/-- The decimal digits of `num / den` rounded to 15 of them, half a last place upward, and the
exponent of the last. -/
def rounded15 (num den : Nat) : Nat × Int :=
  let exponent := leadingPlace num den - 14
  let (n, d) :=
    if exponent < 0 then (num * 10 ^ exponent.natAbs, den) else (num, den * 10 ^ exponent.natAbs)
  ((2 * n + d) / (2 * d), exponent)

/-- The text of a magnitude with 15 digits at the most: positional from `0.0001` up to below
`10 ^ 15`, and always with a point. -/
def roundedMagnitude (num den : Nat) : List Char :=
  if num = 0 then ['0', '.', '0']
  else
    let (n, exponent) := rounded15 num den
    let all := Nat.toDigits 10 n
    let digits := (all.reverse.dropWhile (· == '0')).reverse
    let point := (all.length : Int) + exponent
    if -4 < point ∧ point ≤ 15 then positional digits point
    else scientific (if digits.length = 1 then digits ++ ['0'] else digits) point

/-- The text of the number in a column of texts. -/
def roundedText (x : Binary64) : List Char :=
  match x with
  | .nan => []
  | .infinity false => "Inf".toList
  | .infinity true => "-Inf".toList
  | .finite negative _ _ =>
    match x.ratio? with
    | some (_, num, den) =>
      (if negative ∧ num ≠ 0 then ['-'] else []) ++ roundedMagnitude num den
    | none => []

/-- The text of the number. -/
def text (x : Binary64) : List Char :=
  match x with
  | .nan => "NaN".toList
  | .infinity false => "Infinity".toList
  | .infinity true => "-Infinity".toList
  | .finite negative _ _ =>
    match x.ratio? with
    | some (_, num, den) => (if negative then ['-'] else []) ++ magnitudeText num den
    | none => []

end Binary64

end Backoffice
