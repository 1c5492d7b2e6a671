/-
# Queries

Each query selects rows of one table and reads them as records.  It fails where the table is
missing or a selected row lacks a required column.  An empty column never compares equal to
anything.
-/
import Payables.Ledger.Tables
import Payables.Order

namespace Payables

/-- A query could not be answered. -/
inductive LedgerError where
  | database
  deriving DecidableEq, Repr

namespace Ledger

/-- A column holds exactly this text. -/
def holds (column : Option String) (s : String) : Bool := column == some s

/-- A column holds one of these texts. -/
def holdsOneOf (column : Option String) (ss : List String) : Bool :=
  match column with
  | some s => ss.contains s
  | none => false

/-- Read rows as records, or fail on the first that is incomplete. -/
def readRows (read? : ρ → Option α) : List ρ → Except LedgerError (List α)
  | [] => .ok []
  | r :: rest =>
    match read? r with
    | none => .error .database
    | some x =>
      match readRows read? rest with
      | .error e => .error e
      | .ok xs => .ok (x :: xs)

/-- The records of the rows of a table that a condition selects. -/
def selectAll (table : Option (List ρ)) (condition : ρ → Bool) (read? : ρ → Option α) :
    Except LedgerError (List α) :=
  match table with
  | none => .error .database
  | some rows => readRows read? (rows.filter condition)

/-- The record of the first row of a table that a condition selects, if there is one. -/
def selectFirst (table : Option (List ρ)) (condition : ρ → Bool) (read? : ρ → Option α) :
    Except LedgerError (Option α) :=
  match table with
  | none => .error .database
  | some rows =>
    match rows.find? condition with
    | none => .ok none
    | some r =>
      match read? r with
      | none => .error .database
      | some x => .ok (some x)

/-- Two texts with numbers stand in this order: by the text, then by the number. -/
def textNumberLe (a b : String × Int) : Bool :=
  if a.1 = b.1 then intLe a.2 b.2 else textLe a.1 b.1

namespace Tables

/-- The header of an invoice. -/
def findInvoice (t : Tables) (invoiceId : String) : Except LedgerError (Option InvoiceHeader) :=
  selectFirst t.invoices (fun r => holds r.invoiceId invoiceId) InvoiceRow.header?

/-- The lines of an invoice, by their numbers. -/
def linesOfInvoice (t : Tables) (invoiceId : String) : Except LedgerError (List InvoiceLine) :=
  match selectAll t.invoiceLines (fun r => holds r.invoiceId invoiceId) InvoiceLineRow.line? with
  | .error e => .error e
  | .ok ls => .ok (sortBy (fun a b => intLe a.lineNum b.lineNum) ls)

/-- The header of a purchase order. -/
def findOrderHeader (t : Tables) (poNumber : String) :
    Except LedgerError (Option PurchaseOrderHeader) :=
  selectFirst t.orders (fun r => holds r.poNumber poNumber) OrderRow.header?

/-- The lines of purchase orders, by order number and line number. -/
def linesOfOrders (t : Tables) (poNumbers : List String) :
    Except LedgerError (List PurchaseOrderLine) :=
  match selectAll t.orderLines (fun r => holdsOneOf r.poNumber poNumbers) OrderLineRow.line? with
  | .error e => .error e
  | .ok ls =>
    .ok (sortBy (fun a b => textNumberLe (a.poNumber, a.lineNum) (b.poNumber, b.lineNum)) ls)

/-- A purchase order with its lines. -/
def findOrder (t : Tables) (poNumber : String) : Except LedgerError (Option PurchaseOrder) := do
  match ← t.findOrderHeader poNumber with
  | none => .ok none
  | some header =>
    let lines ← t.linesOfOrders [poNumber]
    .ok (some { toPurchaseOrderHeader := header, lines := lines })

/-- Deal lines out to headers: each takes the lines of its number that are left. -/
def dealLines : List PurchaseOrderHeader → List PurchaseOrderLine → List PurchaseOrder
  | [], _ => []
  | h :: rest, ls =>
    { toPurchaseOrderHeader := h, lines := ls.filter fun l => l.poNumber == h.poNumber }
      :: dealLines rest (ls.filter fun l => !(l.poNumber == h.poNumber))

/-- The purchase orders of a vendor that are not closed, by their numbers. -/
def openOrders (t : Tables) (vendorId : String) : Except LedgerError (List PurchaseOrder) := do
  let found ← selectAll t.orders
    (fun r => holds r.vendorId vendorId && r.closed == some false) OrderRow.header?
  let headers := sortBy (fun a b => textLe a.poNumber b.poNumber) found
  if headers.isEmpty then .ok []
  else
    let lines ← t.linesOfOrders (headers.map PurchaseOrderHeader.poNumber)
    .ok (dealLines headers lines)

/-- The receipts of documents, by document and line number.  Nothing is asked about no document. -/
def receiptsOf (t : Tables) (documents : List String) :
    Except LedgerError (List GoodsReceipt) :=
  if documents.isEmpty then .ok []
  else
    match selectAll t.receipts (fun r => holdsOneOf r.document documents) ReceiptRow.receipt? with
    | .error e => .error e
    | .ok rs =>
      .ok (sortBy (fun a b => textNumberLe (a.document, a.lineNum) (b.document, b.lineNum)) rs)

/-- What is known about a vendor; one without a row is not blocked and has no score. -/
def findVendor (t : Tables) (vendorId : String) : Except LedgerError Vendor :=
  match selectFirst t.vendors (fun r => holds r.vendorId vendorId) VendorRow.vendor? with
  | .error e => .error e
  | .ok v => .ok (v.getD {})

/-- The posted invoices of a vendor, one invoice excluded. -/
def postedBy (t : Tables) (vendorId excluded : String) :
    Except LedgerError (List PostedInvoice) :=
  selectAll t.posted
    (fun r => holds r.vendorId vendorId && r.invoiceId.isSome && !holds r.invoiceId excluded)
    PostedRow.posted?

end Tables
end Ledger
end Payables
