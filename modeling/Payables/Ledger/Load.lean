/-
# Loading snapshots

A snapshot is put together from the ledger: the invoice, the purchase order it names, the receipts
that its lines refer to, the vendor, and the other invoices of the vendor that have been posted.
-/
import Payables.Ledger.Queries

namespace Payables

/-- A snapshot could not be loaded. -/
inductive LoadError where
  | notFound (invoiceId : String)
  | ledger (e : LedgerError)
  deriving DecidableEq, Repr

namespace LoadError

/-- The wording; what exactly went wrong in the ledger is left out. -/
def message : LoadError → String
  | notFound id => "invoice " ++ id ++ " not found"
  | ledger _ => "database error"

end LoadError

namespace Ledger

/-- The answer of a query while a snapshot is loaded. -/
def asked (answer : Except LedgerError α) : Except LoadError α :=
  match answer with
  | .ok x => .ok x
  | .error e => .error (.ledger e)

/-- The receipt documents that lines refer to, in order. -/
def receiptDocuments (ls : List InvoiceLine) : List String :=
  sortUnique textLt (ls.filterMap InvoiceLine.receiptRef)

/-- The purchase order that a header names, if it names one that is there. -/
def Tables.orderOf (t : Tables) (h : InvoiceHeader) :
    Except LedgerError (Option PurchaseOrder) :=
  match h.poNumber with
  | some number => t.findOrder number
  | none => .ok none

/-- Load the snapshot of an invoice. -/
def Tables.snapshot (t : Tables) (invoiceId : String) : Except LoadError Snapshot := do
  match ← asked (t.findInvoice invoiceId) with
  | none => .error (.notFound invoiceId)
  | some header =>
    let lines ← asked (t.linesOfInvoice invoiceId)
    let order ← asked (t.orderOf header)
    let receipts ← asked (t.receiptsOf (receiptDocuments lines))
    let vendor ← asked (t.findVendor header.vendorId)
    let posted ← asked (t.postedBy header.vendorId invoiceId)
    .ok
      { header := header
        lines := lines
        purchaseOrder := order
        receipts := receipts
        vendor := vendor
        posted := posted }

end Ledger
end Payables
