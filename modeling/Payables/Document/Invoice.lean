/-
# Invoices

What a vendor bills: the header of an invoice, its lines, and invoices that have been posted
before.
-/
import Payables.Decimal.Basic
import Payables.Calendar.Date

namespace Payables

/-- The header of an invoice.  `vendorReference` is the number that the vendor gave it; an invoice
without a purchase order number is not backed by an order. -/
structure InvoiceHeader where
  invoiceId : String
  vendorId : String
  vendorReference : String
  date : Date
  poNumber : Option String
  currency : String
  deriving DecidableEq, Repr

/-- A billed line, with what it refers to: a line of the purchase order, a goods receipt document,
and the material code of the vendor. -/
structure InvoiceLine where
  invoiceId : String
  lineNum : Int
  description : String
  quantity : Decimal
  unit : String
  unitPrice : Decimal
  amount : Decimal
  poLineRef : Option Int
  receiptRef : Option String
  materialCode : Option String
  deriving DecidableEq, Repr

/-- An invoice that has been posted. -/
structure PostedInvoice where
  vendorId : String
  vendorReference : String
  poNumber : Option String
  total : Decimal
  deriving DecidableEq, Repr

namespace InvoiceLine

/-- The most by which an amount may miss quantity times price. -/
def amountTolerance : Decimal := ⟨1, 2⟩

/-- Quantity times price, rounded to two places. -/
def expectedAmount (l : InvoiceLine) : Decimal := (l.quantity.mul l.unitPrice).round 2

/-- The amount agrees with quantity times price. -/
def amountAgrees (l : InvoiceLine) : Bool :=
  !amountTolerance.lt (l.amount.sub l.expectedAmount).abs

end InvoiceLine
end Payables
