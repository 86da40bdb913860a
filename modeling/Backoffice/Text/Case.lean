import Backoffice.Text.CaseTable

/-!
# Letter case

`lower` lowers a text by the full rules of the Unicode standard: the capital I with a dot
becomes two characters, and a capital sigma becomes the final sigma exactly at the end of a
word.  `asciiLower` and `capital` know the ASCII alphabet only.
-/

namespace Backoffice.Text

/-- The lower form of a letter that has a one-letter lower form; any other character. -/
def lowerLetter (c : Char) : Char :=
  match caseRuns.find? (·.covers c.toNat) with
  | some run => Char.ofNat (Int.toNat (c.toNat + run.shift))
  | none => c

/-- Past the characters that the search ignores stands a letter that has case. -/
def meetsCased (cs : List Char) : Bool :=
  match cs.dropWhile (inRanges caseIgnorableRanges ·.toNat) with
  | d :: _ => inRanges casedRanges d.toNat
  | [] => false

/-- The lower form of `c` between the characters `before`, nearest first, and `after`. -/
def lowerBetween (before : List Char) (c : Char) (after : List Char) : List Char :=
  if c = 'Σ' then
    if meetsCased before && !meetsCased after then ['ς'] else ['σ']
  else if c = 'İ' then ['i', '\u0307']
  else [lowerLetter c]

/-- Lowers the characters that follow `before`, which is given nearest first. -/
def lowerAfter (before : List Char) : List Char → List Char
  | [] => []
  | c :: cs => lowerBetween before c cs ++ lowerAfter (c :: before) cs

/-- The text in lower case. -/
def lower (s : String) : String :=
  String.ofList (lowerAfter [] s.toList)

/-- Lowers the letters A to Z and keeps every other character. -/
def asciiLowerChar (c : Char) : Char :=
  if 'A' ≤ c ∧ c ≤ 'Z' then Char.ofNat (c.toNat + 32) else c

/-- The text with the letters A to Z in lower case. -/
def asciiLower (s : String) : String :=
  s.map asciiLowerChar

/-- The capital of a letter whose capital is an ASCII letter.  Beside a to z these are the
long s and the dotless i. -/
def capitalChar (c : Char) : Char :=
  if 'a' ≤ c ∧ c ≤ 'z' then Char.ofNat (c.toNat - 32)
  else if c = 'ſ' then 'S'
  else if c = 'ı' then 'I'
  else c

/-- The text with ASCII capitals where there are such. -/
def capital (s : String) : String :=
  s.map capitalChar

end Backoffice.Text
