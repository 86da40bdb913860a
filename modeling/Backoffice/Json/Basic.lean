import Backoffice.Number.Binary64

/-!
# JSON values

The values of JSON, with whole numbers of any size kept apart from floating-point ones, and
objects as lists of fields in the order of their first occurrence.
-/

namespace Backoffice

/-- A JSON value.  The constructor `unpaired` is a string that holds half of a surrogate pair
and therefore is no text. -/
inductive Json
  | null
  | bool (b : Bool)
  | int (n : Int)
  | float (x : Binary64)
  | str (s : String)
  | unpaired
  | arr (items : List Json)
  | obj (fields : List (String × Json))
deriving Repr, Inhabited

namespace Json

/-- A text or null. -/
def ofText? : Option String → Json
  | some s => .str s
  | none => .null

/-- Sets the field `key`, in its place if there is one and at the end otherwise. -/
def setField (key : String) (value : Json) : List (String × Json) → List (String × Json)
  | [] => [(key, value)]
  | (k, v) :: rest => if k = key then (key, value) :: rest else (k, v) :: setField key value rest

/-- The fields of the pairs: of those with one name the last value counts, at the place of the
first. -/
def ofPairs (pairs : List (String × Json)) : List (String × Json) :=
  pairs.foldl (fun fields p => setField p.1 p.2 fields) []

/-- The number that the value counts as in a comparison: true is one, false is zero. -/
def number? : Json → Option (Sum Int Binary64)
  | .bool b => some (.inl (if b then 1 else 0))
  | .int n => some (.inl n)
  | .float x =>
    match x.int? with
    | some n => some (.inl n)
    | none => some (.inr x)
  | _ => none

mutual

/-- The two values are equal: numbers and truth values by what they count as, arrays item by
item, objects whatever the order of their fields. -/
def same : Json → Json → Bool
  | .null, .null => true
  | .str s, .str t => s == t
  | .unpaired, .unpaired => true
  | .arr xs, .arr ys => sameItems xs ys
  | .obj xs, .obj ys => xs.length == ys.length && sameFields xs ys
  | x, y =>
    match x.number?, y.number? with
    | some (.inl m), some (.inl n) => m == n
    | some (.inr a), some (.inr b) => a == b && a != .nan
    | _, _ => false

/-- The two lists have equal items in the same order. -/
def sameItems : List Json → List Json → Bool
  | [], [] => true
  | x :: xs, y :: ys => same x y && sameItems xs ys
  | _, _ => false

/-- Every field of the first list has an equal value in the second. -/
def sameFields : List (String × Json) → List (String × Json) → Bool
  | [], _ => true
  | (k, x) :: xs, ys =>
    (match ys.lookup k with
      | some y => same x y
      | none => false) && sameFields xs ys

end

end Json

end Backoffice
