/-
# The tables of the ledger

The rows that invoices and their context are kept in.  Any column of a row may be empty; a row
becomes a record only if the columns that the record requires are not.  A table may be missing
altogether.
-/
import Payables.Document.Snapshot
import Payables.Ledger.Numeric

namespace Payables.Ledger

/-- An invoice header. -/
structure InvoiceRow where
  invoiceId : Option String
  vendorId : Option String
  vendorReference : Option String
  date : Option Date
  poNumber : Option String
  currency : Option String

/-- An invoice line. -/
structure InvoiceLineRow where
  invoiceId : Option String
  lineNum : Option Int
  description : Option String
  quantity : Option Numeric
  unit : Option String
  unitPrice : Option Numeric
  amount : Option Numeric
  poLineRef : Option Int
  receiptRef : Option String
  materialCode : Option String

/-- A purchase order header. -/
structure OrderRow where
  poNumber : Option String
  vendorId : Option String
  created : Option Date
  closed : Option Bool

/-- A purchase order line. -/
structure OrderLineRow where
  poNumber : Option String
  lineNum : Option Int
  description : Option String
  quantity : Option Numeric
  unitPrice : Option Numeric
  materialCode : Option String
  costCenter : Option String

/-- A line of a goods receipt. -/
structure ReceiptRow where
  document : Option String
  lineNum : Option Int
  poLineNum : Option Int
  quantity : Option Numeric
  date : Option Date

/-- A vendor. -/
structure VendorRow where
  vendorId : Option String
  paymentBlock : Option Bool
  reliability : Option Int

/-- A posted invoice. -/
structure PostedRow where
  invoiceId : Option String
  vendorId : Option String
  vendorReference : Option String
  poNumber : Option String
  total : Option Numeric

/-- The tables, each with its rows in their order, if it is there. -/
structure Tables where
  invoices : Option (List InvoiceRow)
  invoiceLines : Option (List InvoiceLineRow)
  orders : Option (List OrderRow)
  orderLines : Option (List OrderLineRow)
  receipts : Option (List ReceiptRow)
  vendors : Option (List VendorRow)
  posted : Option (List PostedRow)

/-- The number of a numeric column that must not be empty. -/
def decimalOf? (n : Option Numeric) : Option Decimal := n.bind Numeric.decimal?

/-! ## Records of rows -/

/-- The header that a row holds. -/
def InvoiceRow.header? (r : InvoiceRow) : Option InvoiceHeader := do
  some
    { invoiceId := ← r.invoiceId
      vendorId := ← r.vendorId
      vendorReference := ← r.vendorReference
      date := ← r.date
      poNumber := r.poNumber
      currency := ← r.currency }

/-- The invoice line that a row holds. -/
def InvoiceLineRow.line? (r : InvoiceLineRow) : Option InvoiceLine := do
  some
    { invoiceId := ← r.invoiceId
      lineNum := ← r.lineNum
      description := ← r.description
      quantity := ← decimalOf? r.quantity
      unit := ← r.unit
      unitPrice := ← decimalOf? r.unitPrice
      amount := ← decimalOf? r.amount
      poLineRef := r.poLineRef
      receiptRef := r.receiptRef
      materialCode := r.materialCode }

/-- The purchase order header that a row holds. -/
def OrderRow.header? (r : OrderRow) : Option PurchaseOrderHeader := do
  some
    { poNumber := ← r.poNumber
      vendorId := ← r.vendorId
      created := ← r.created }

/-- The purchase order line that a row holds. -/
def OrderLineRow.line? (r : OrderLineRow) : Option PurchaseOrderLine := do
  some
    { poNumber := ← r.poNumber
      lineNum := ← r.lineNum
      description := ← r.description
      quantity := ← decimalOf? r.quantity
      unitPrice := ← decimalOf? r.unitPrice
      materialCode := r.materialCode
      costCenter := r.costCenter }

/-- The receipt that a row holds. -/
def ReceiptRow.receipt? (r : ReceiptRow) : Option GoodsReceipt := do
  some
    { document := ← r.document
      lineNum := ← r.lineNum
      poLineNum := r.poLineNum
      quantity := ← decimalOf? r.quantity
      date := ← r.date }

/-- The vendor that a row holds. -/
def VendorRow.vendor? (r : VendorRow) : Option Vendor := do
  some
    { paymentBlock := ← r.paymentBlock
      reliability := r.reliability }

/-- The posted invoice that a row holds. -/
def PostedRow.posted? (r : PostedRow) : Option PostedInvoice := do
  some
    { vendorId := ← r.vendorId
      vendorReference := ← r.vendorReference
      poNumber := r.poNumber
      total := ← decimalOf? r.total }

end Payables.Ledger
