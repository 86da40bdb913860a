import Backoffice.Text.Case
import Backoffice.Text.Split

/-!
# Patterns

Text patterns in which a percent sign stands for any text and an underscore for any character,
compared without regard to the case of ASCII letters.  A backslash takes the character after it
literally, so every text can be searched for once it is escaped.  Pattern and text are compared
as they are read (`read`): some characters are not told apart.
-/

namespace Backoffice.Pattern

/-- A part of a pattern. -/
inductive Part
  | anyText
  | anyChar
  | literal (c : Char)
deriving Repr, DecidableEq

/-- Puts a backslash before every `c`. -/
def escapeChar (c : Char) (cs : List Char) : List Char :=
  cs.flatMap fun d => if d = c then ['\\', d] else [d]

/-- Puts a backslash before every backslash, percent sign and underscore.  The backslashes come first, as
the later ones must not be escaped themselves. -/
def escape (s : String) : String :=
  String.ofList (escapeChar '_' (escapeChar '%' (escapeChar '\\' s.toList)))

/-- The parts of a pattern; `none` if it ends with a lone backslash. -/
def parts? : List Char → Option (List Part)
  | [] => some []
  | '\\' :: c :: rest => (parts? rest).map (.literal c :: ·)
  | ['\\'] => none
  | '%' :: rest => (parts? rest).map (.anyText :: ·)
  | '_' :: rest => (parts? rest).map (.anyChar :: ·)
  | c :: rest => (parts? rest).map (.literal c :: ·)

/-- The text is one that the parts describe. -/
def fits : List Part → List Char → Bool
  | [], cs => cs.isEmpty
  | .anyText :: ps, cs => Text.someTail (fits ps) cs
  | .anyChar :: ps, cs =>
    match cs with
    | _ :: cs => fits ps cs
    | [] => false
  | .literal a :: ps, cs =>
    match cs with
    | c :: cs => Text.asciiLowerChar a == Text.asciiLowerChar c && fits ps cs
    | [] => false

/-- What a character is read as.  The two that end the 16-bit range, U+FFFE and U+FFFF, stand for no
character and are read as the replacement character. -/
def readAs (c : Char) : Char :=
  if c = '\ufffe' ∨ c = '\uffff' then '\ufffd' else c

/-- A text, or a pattern, as its characters are read. -/
def read (s : String) : String :=
  s.map readAs

/-- Only what stands before the first null character is seen. -/
def seen (s : String) : List Char :=
  (read s).toList.takeWhile (· != '\x00')

/-- The text is one that the pattern describes. -/
def matchesText (pattern text : String) : Bool :=
  match parts? (seen pattern) with
  | some ps => fits ps (seen text)
  | none => false

/-- The pattern of the texts that contain `s`. -/
def containing (s : String) : String :=
  "%" ++ escape s ++ "%"

end Backoffice.Pattern
