/-
# Variance

By how many percent an invoice line differs from the purchase order line that it is matched to,
and what that does to the confidence and the status of the match.
-/
import Payables.Binary64.Text
import Payables.Decimal.Quotient
import Payables.Document.Invoice
import Payables.Matching.Result

namespace Payables

/-- The change from `ordered` to `invoiced` in percent, rounded to two places.  Where nothing was
ordered, anything invoiced counts as a whole. -/
def percentChange (invoiced ordered : Decimal) : Binary64 :=
  if ordered.isZero then
    if invoiced.isZero then Binary64.zero
    else if 0 < invoiced.coeff then Binary64.ofInt 100 else Binary64.ofInt (-100)
  else
    let pct := ((invoiced.sub ordered).hundredfold.div ordered).toBinary64
    (pct.mul (Binary64.ofInt 100)).round.div (Binary64.ofInt 100)

/-- A difference in percent, and what it is measured on. -/
structure Variance where
  kind : VarianceKind
  pct : Binary64
  deriving DecidableEq, Repr

namespace Variance

/-- No difference. -/
def none : Variance := ⟨.none, Binary64.zero⟩

/-- The larger of the differences in price and in quantity; the price where they are equal. -/
def measure (l : InvoiceLine) (p : PurchaseOrderLine) : Variance :=
  let price := percentChange l.unitPrice p.unitPrice
  let quantity := percentChange l.quantity p.quantity
  if price.eqv Binary64.zero && quantity.eqv Binary64.zero then none
  else if quantity.abs.le price.abs then ⟨.price, price⟩
  else ⟨.quantity, quantity⟩

/-- The most that a variance takes from a confidence. -/
def maxPenalty : UInt8 := 40

/-- Ten points for each percent, at most `maxPenalty`. -/
def penalty (pct : Binary64) : UInt8 :=
  let scaled := (pct.abs.mul (Binary64.ofNat 10)).round
  if (Binary64.ofNat maxPenalty.toNat).le scaled then maxPenalty else scaled.toUInt8

/-- One byte less another, and zero where that is negative. -/
def less (a b : UInt8) : UInt8 := UInt8.ofNat (a.toNat - b.toNat)

/-- What a variance leaves of the confidence that a strategy gave. -/
def confidence (raw : UInt8) (pct : Binary64) : UInt8 := less raw (penalty pct)

/-- A match within the tolerance of its strategy is clean; beyond it, a missing quantity is a
shortfall and anything else an exception. -/
def classify (s : Strategy) (v : Variance) : MatchStatus :=
  if v.pct.abs.le s.tolerance then .matched
  else if v.kind = .quantity && v.pct.lt Binary64.zero then .shortfall
  else .exception

end Variance
end Payables
