/-
# Snapshots

Everything an invoice is judged by: the invoice itself, the purchase order it names, the goods
receipts, the vendor and the invoices posted before.
-/
import Payables.Document.Invoice
import Payables.Document.PurchaseOrder
import Payables.Document.Receipt

namespace Payables

/-- What is known about a vendor: whether payments are blocked, and a reliability score. -/
structure Vendor where
  paymentBlock : Bool := false
  reliability : Option Int := none
  deriving DecidableEq, Repr

/-- An invoice with its context. -/
structure Snapshot where
  header : InvoiceHeader
  lines : List InvoiceLine
  purchaseOrder : Option PurchaseOrder := none
  receipts : List GoodsReceipt := []
  vendor : Vendor := {}
  posted : List PostedInvoice := []
  deriving DecidableEq, Repr

namespace Snapshot

/-- The sum of the amounts of the lines. -/
def total (s : Snapshot) : Decimal := Decimal.sum (s.lines.map InvoiceLine.amount)

/-- The invoice names no purchase order. -/
def isUnordered (s : Snapshot) : Bool := s.header.poNumber.isNone

/-- The quantities received by purchase order line. -/
def received (s : Snapshot) : Received := Received.ofReceipts s.receipts

/-- The record that this invoice leaves once it is posted. -/
def toPosted (s : Snapshot) : PostedInvoice :=
  ⟨s.header.vendorId, s.header.vendorReference, s.header.poNumber, s.total⟩

end Snapshot
end Payables
