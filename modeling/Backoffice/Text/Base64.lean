/-!
# Base 64

Octets written in groups of six bits.  Three alphabets differ in the last two digits; none of
the forms is padded.  The reader is lenient: it takes the digits of its alphabet, skips any other
character, and stops where padding completes a group of four.
-/

namespace Backoffice.Text.Base64

/-- The two digits in which the alphabets differ. -/
structure Alphabet where
  digit62 : Char
  digit63 : Char
deriving Repr, DecidableEq

/-- The alphabet with a hyphen and an underscore, which need no coding in an address. -/
def Alphabet.addressSafe : Alphabet := ⟨'-', '_'⟩

/-- The alphabet with a point and a slash. -/
def Alphabet.pointed : Alphabet := ⟨'.', '/'⟩

/-- The digit of a value below 64. -/
def Alphabet.digit (a : Alphabet) (n : Nat) : Char :=
  if n < 26 then Char.ofNat (65 + n)
  else if n < 52 then Char.ofNat (71 + n)
  else if n < 62 then Char.ofNat (n - 4)
  else if n = 62 then a.digit62
  else a.digit63

/-- The value of a digit.  Plus and slash are digits of every alphabet. -/
def Alphabet.value? (a : Alphabet) (c : Char) : Option Nat :=
  if 'A' ≤ c ∧ c ≤ 'Z' then some (c.toNat - 65)
  else if 'a' ≤ c ∧ c ≤ 'z' then some (c.toNat - 71)
  else if '0' ≤ c ∧ c ≤ '9' then some (c.toNat + 4)
  else if c = a.digit62 ∨ c = '+' then some 62
  else if c = a.digit63 ∨ c = '/' then some 63
  else none

/-- Writes octets, without padding. -/
def encode (a : Alphabet) : List UInt8 → List Char
  | [] => []
  | [x] => [a.digit (x.toNat / 4), a.digit (x.toNat % 4 * 16)]
  | [x, y] =>
    [a.digit (x.toNat / 4), a.digit (x.toNat % 4 * 16 + y.toNat / 16),
      a.digit (y.toNat % 16 * 4)]
  | x :: y :: z :: rest =>
    a.digit (x.toNat / 4) :: a.digit (x.toNat % 4 * 16 + y.toNat / 16) ::
      a.digit (y.toNat % 16 * 4 + z.toNat / 64) :: a.digit (z.toNat % 64) :: encode a rest

/-- How far the reader is in a group of four digits, with the bits it has not yet used. -/
inductive Place
  | first
  | second (bits : Nat)
  | third (bits : Nat)
  | fourth (bits : Nat)
deriving Repr, DecidableEq

/-- How many padding characters complete the group; none can before its third digit. -/
def Place.missing : Place → Option Nat
  | third _ => some 2
  | fourth _ => some 1
  | _ => none

/-- Takes the value of a digit: the octet that it completes, and the next place. -/
def Place.take (v : Nat) : Place → List UInt8 × Place
  | first => ([], second v)
  | second bits => ([UInt8.ofNat (bits * 4 + v / 16)], third (v % 16))
  | third bits => ([UInt8.ofNat (bits * 16 + v / 4)], fourth (v % 4))
  | fourth bits => ([UInt8.ofNat (bits * 64 + v)], first)

/-- Reads octets from a place on, after `pads` padding characters in a row.  The text has to end
between groups or after complete padding. -/
def readFrom (a : Alphabet) (place : Place) (pads : Nat) : List Char → Option (List UInt8)
  | [] => if place = .first then some [] else none
  | c :: cs =>
    if c = '=' then
      match place.missing with
      | some n => if n ≤ pads + 1 then some [] else readFrom a place (pads + 1) cs
      | none => readFrom a place pads cs
    else
      match a.value? c with
      | none => readFrom a place pads cs
      | some v => (readFrom a (place.take v).2 0 cs).map ((place.take v).1 ++ ·)

/-- The padding of a text of `n` characters. -/
def padding (n : Nat) : List Char :=
  if n % 4 = 0 then [] else List.replicate (4 - n % 4) '='

/-- Reads octets; padding may be left out. -/
def decode? (a : Alphabet) (cs : List Char) : Option (List UInt8) :=
  readFrom a .first 0 (cs ++ padding cs.length)

end Backoffice.Text.Base64
