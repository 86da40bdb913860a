/-!
# Splitting text

Cutting a list of characters or octets at a separator, and looking through its tails.
-/

namespace Backoffice.Text

variable {α : Type}

/-- Some tail of the list, the whole list included, has the property. -/
def someTail (p : List α → Bool) : List α → Bool
  | [] => p []
  | c :: cs => p (c :: cs) || someTail p cs

variable [DecidableEq α]

/-- The parts between separators; there is one part more than there are separators. -/
def split (sep : α) : List α → List (List α)
  | [] => [[]]
  | c :: cs =>
    if c = sep then [] :: split sep cs
    else
      match split sep cs with
      | part :: parts => (c :: part) :: parts
      | [] => [[c]]

/-- What stands before and after the first separator. -/
def splitFirst (sep : α) : List α → Option (List α × List α)
  | [] => none
  | c :: cs =>
    if c = sep then some ([], cs)
    else (splitFirst sep cs).map fun (before, after) => (c :: before, after)

/-- What stands before and after the last separator. -/
def splitLast (sep : α) (cs : List α) : Option (List α × List α) :=
  (splitFirst sep cs.reverse).map fun (after, before) => (before.reverse, after.reverse)

end Backoffice.Text
