/-
# Numeric columns

A numeric column keeps a number as groups of four digits, aligned on the decimal point and without
zero groups at either end.  The scale of what is read back is therefore a multiple of four.
-/
import Payables.Decimal.Text

namespace Payables.Ledger

/-- The value of a numeric column: a number, or the mark for none. -/
inductive Numeric where
  | notANumber
  | number (d : Decimal)
  deriving DecidableEq, Repr

namespace Numeric

/-- The digits of a group. -/
def groupDigits : Int := 4

/-- What a group counts to. -/
def groupBase : Int := 10000

/-- Drop the zero groups at the end of a coefficient; at most `fuel` of them. -/
def dropZeroGroups : Nat → Int → Int → Decimal
  | 0, c, s => ⟨c, s⟩
  | fuel + 1, c, s =>
    if c % groupBase = 0 then dropZeroGroups fuel (c / groupBase) (s - groupDigits) else ⟨c, s⟩

/-- A decimal as it is read back from a column. -/
def regroup (d : Decimal) : Decimal :=
  if d.coeff = 0 then .zero
  else
    let pad := (-d.scale) % groupDigits
    let c := d.coeffAt (d.scale + pad)
    dropZeroGroups (digitCount c.natAbs) c (d.scale + pad)

/-- The number of a column, if it holds one. -/
def decimal? : Numeric → Option Decimal
  | notANumber => none
  | number d => some (regroup d)

/-- Read the text of a column. -/
def read? (s : String) : Option Numeric :=
  if s = "NaN" then some notANumber else (Decimal.read? s).map number

end Numeric
end Payables.Ledger
