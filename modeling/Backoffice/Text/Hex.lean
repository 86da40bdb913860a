/-!
# Hexadecimal digits

Reading and writing single digits to the base sixteen.  Letters are read in either case; the
writer is told the letter that stands for ten.
-/

namespace Backoffice.Text

/-- The value of a hexadecimal digit. -/
def hexValue? (c : Char) : Option Nat :=
  if '0' ≤ c ∧ c ≤ '9' then some (c.toNat - 48)
  else if 'a' ≤ c ∧ c ≤ 'f' then some (c.toNat - 87)
  else if 'A' ≤ c ∧ c ≤ 'F' then some (c.toNat - 55)
  else none

/-- The hexadecimal digit of a value below sixteen, where `ten` and the letters after it stand for
ten and more. -/
def hexDigit (ten : Char) (n : Nat) : Char :=
  Char.ofNat (if n < 10 then 48 + n else ten.toNat + (n - 10))

/-- A digit is read as the value that it was written for, in either case. -/
theorem hexValue?_hexDigit {ten : Char} (hten : ten = 'a' ∨ ten = 'A') {n : Nat} (h : n < 16) :
    hexValue? (hexDigit ten n) = some n := by
  have hlower : ∀ n < 16, hexValue? (hexDigit 'a' n) = some n := by decide
  have hupper : ∀ n < 16, hexValue? (hexDigit 'A' n) = some n := by decide
  rcases hten with rfl | rfl
  · exact hlower n h
  · exact hupper n h

end Backoffice.Text
