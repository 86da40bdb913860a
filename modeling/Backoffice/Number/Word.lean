/-!
# Words

Integers of 64 bits: those that can be stored, be a parameter of a statement, and be read from a
number with a fraction.
-/

namespace Backoffice

-- Powers are those of the standard library, whatever else is imported.
attribute [local instance (high)] instPowNat

/-- Integers below this magnitude fit 64 bits. -/
def wordLimit : Int := 2 ^ (63 : Nat)

/-- The integer fits 64 bits. -/
def fitsWord (n : Int) : Bool :=
  -wordLimit ≤ n && n < wordLimit

end Backoffice
