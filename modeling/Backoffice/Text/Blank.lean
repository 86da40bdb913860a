/-!
# Blanks

Which characters count as blank at the ends of a text, and how they are trimmed.  There are
two classes: `isBlank` also holds the four information separators U+001C to U+001F, which
`isSpace` leaves out.
-/

namespace Backoffice.Text

/-- A blank: white space or one of the information separators U+001C to U+001F. -/
def isBlank (c : Char) : Bool :=
  let n := c.toNat
  (0x09 ≤ n && n ≤ 0x0D) || (0x1C ≤ n && n ≤ 0x20) || n == 0x85 || n == 0xA0 || n == 0x1680 ||
    (0x2000 ≤ n && n ≤ 0x200A) || n == 0x2028 || n == 0x2029 || n == 0x202F || n == 0x205F ||
    n == 0x3000

/-- White space in the sense of the Unicode property, which has no information separators. -/
def isSpace (c : Char) : Bool :=
  isBlank c && !(0x1C ≤ c.toNat && c.toNat ≤ 0x1F)

/-- The characters left when those of class `p` are taken from both ends. -/
def trimBy (p : Char → Bool) (cs : List Char) : List Char :=
  ((cs.dropWhile p).reverse.dropWhile p).reverse

/-- The text without the blanks at its ends. -/
def strip (s : String) : String :=
  String.ofList (trimBy isBlank s.toList)

/-- An absent text counts as empty. -/
def orEmpty (s : Option String) : String :=
  s.getD ""

/-- The stripped text, if any of it is left. -/
def nonBlank? (s : Option String) : Option String :=
  let text := strip (orEmpty s)
  if text = "" then none else some text

@[simp] theorem trimBy_nil (p : Char → Bool) : trimBy p [] = [] := rfl

end Backoffice.Text
