/-
# Division of decimals

A quotient is computed digit by digit and stops when the remainder vanishes or when it has a
hundred digits; what is left after that rounds the last digit, a half going up.
-/
import Payables.Decimal.Basic

namespace Payables.Decimal

/-- The most digits of a quotient. -/
def quotientDigits : Nat := 100

/-- The least shift `k` with `b ≤ a * 10 ^ k`, for `a` not zero. -/
def leadingShift (a b : Nat) : Nat :=
  if b ≤ a then 0
  else
    let k := digitCount b - digitCount a
    if b ≤ a * tenTo k then k else k + 1

/-- A division under way: the digits so far, their scale, and ten times the remainder. -/
structure LongDivision where
  quotient : Nat
  scale : Int
  remainder : Nat

/-- Append quotient digits until the remainder is zero, at most `fuel` of them. -/
def LongDivision.run (divisor : Nat) : Nat → LongDivision → LongDivision
  | 0, s => s
  | fuel + 1, s =>
    if s.remainder = 0 then s
    else run divisor fuel
      ⟨s.quotient * 10 + s.remainder / divisor, s.scale + 1, s.remainder % divisor * 10⟩

/-- The quotient of two positive coefficients whose scales differ by `scale`. -/
def divideCoeffs (a b : Nat) (scale : Int) : Decimal :=
  let k := leadingShift a b
  let n := a * tenTo k
  let first : LongDivision := ⟨n / b, scale + k, n % b * 10⟩
  let last := first.run b (quotientDigits - digitCount first.quotient)
  let up := if last.remainder ≠ 0 ∧ 5 ≤ last.remainder / b then 1 else 0
  ⟨((last.quotient + up : Nat) : Int), last.scale⟩

/-- The quotient, for a divisor that is not zero.  Dividing by one keeps the dividend as it is
written, and equal coefficients divide to one. -/
def div (a b : Decimal) : Decimal :=
  if a.coeff = 0 || b.eqv (ofInt 1) then a
  else if a.coeff = b.coeff then ⟨1, a.scale - b.scale⟩
  else
    let q := divideCoeffs a.coeff.natAbs b.coeff.natAbs (a.scale - b.scale)
    if decide (a.coeff < 0) == decide (b.coeff < 0) then q else ⟨-q.coeff, q.scale⟩

end Payables.Decimal
