/-
# When guardrails fire

Each rule looks at a line, its match result and the invoice as a whole, within configurable
limits.
-/
import Payables.Document.Snapshot
import Payables.Matching.Result
import Payables.Binary64.Text

namespace Payables

/-- The limits of the rules that have one. -/
structure GuardrailLimits where
  priceVariancePct : Binary64 := Binary64.ofNat 2
  quantityVariancePct : Binary64 := Binary64.ofNat 2
  reliabilityWatch : Int := 70
  largeUnplannedAmount : Binary64 := Binary64.ofNat 10000
  deriving DecidableEq, Repr

/-- What the rules look at beside the line: the snapshot, whether the invoice was posted before, and
the quantities received. -/
structure InvoiceContext where
  snapshot : Snapshot
  duplicate : Bool
  received : Received
  deriving DecidableEq, Repr

namespace Snapshot

/-- A posted invoice is the same as this one: of the same vendor, with the same number, or with the
same purchase order and total. -/
def isRepeatOf (s : Snapshot) (p : PostedInvoice) : Bool :=
  p.vendorId == s.header.vendorId &&
    (p.vendorReference == s.header.vendorReference ||
      (p.poNumber.isSome && p.poNumber == s.header.poNumber && p.total.eqv s.total))

/-- The invoice was posted before. -/
def isDuplicate (s : Snapshot) : Bool := s.posted.any s.isRepeatOf

/-- The context of an invoice. -/
def context (s : Snapshot) : InvoiceContext := ⟨s, s.isDuplicate, s.received⟩

end Snapshot

namespace Guardrail

/-- The invoice is dated before its purchase order. -/
def predatesOrder (s : Snapshot) : Bool :=
  match s.purchaseOrder with
  | some po => s.header.date.lt po.created
  | none => false

/-- More is invoiced than was received at the purchase order line, where anything was. -/
def exceedsReceipt (received : Received) (l : InvoiceLine) (r : MatchResult) : Bool :=
  match r.poLine.bind fun ref => received.at? ref.lineNum with
  | some quantity => quantity.lt l.quantity
  | none => false

/-- The vendor's score is below the watch limit. -/
def belowWatch (limits : GuardrailLimits) (v : Vendor) : Bool :=
  match v.reliability with
  | some score => decide (score < limits.reliabilityWatch)
  | none => false

/-- A rule fires on a line. -/
def fires (limits : GuardrailLimits) (ctx : InvoiceContext) (l : InvoiceLine) (r : MatchResult) :
    Guardrail → Bool
  | duplicatePosting => ctx.duplicate
  | vendorPaymentBlock => ctx.snapshot.vendor.paymentBlock
  | invoicePredatesPo => predatesOrder ctx.snapshot
  | priceVariance => r.varianceKind == .price && limits.priceVariancePct.lt r.variancePct.abs
  | quantityVariance =>
    r.varianceKind == .quantity && limits.quantityVariancePct.lt r.variancePct.abs
  | partialReceipt => exceedsReceipt ctx.received l r
  | vendorReliabilityWatch => belowWatch limits ctx.snapshot.vendor
  | largeUnplannedCost =>
    (r.status == .unplanned || r.varianceKind == .unplannedCost) &&
      limits.largeUnplannedAmount.le l.amount.abs.toBinary64

end Guardrail
end Payables
