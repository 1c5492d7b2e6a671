/-
# Sets of characters as ranges of code points
-/

namespace Payables.Text

/-- The code points of a set, as disjoint ranges in ascending order, ends included. -/
abbrev Ranges := List (Nat × Nat)

namespace Ranges

/-- A code point lies in one of the ranges. -/
def has : Ranges → Nat → Bool
  | [], _ => false
  | (first, last) :: r, n => if n < first then false else if n ≤ last then true else has r n

/-- A character lies in one of the ranges. -/
def hasChar (rs : Ranges) (c : Char) : Bool := rs.has c.toNat

end Ranges
end Payables.Text
