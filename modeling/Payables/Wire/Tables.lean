/-
# Exchange form of the ledger

The tables of the ledger as an object of arrays of rows.  A column that is missing or not of its
kind is empty.
-/
import Payables.Wire.Scalar
import Payables.Ledger.Tables

namespace Payables.Wire

open Ledger

/-- A column of a row. -/
def column (j : Json) (key : String) (read? : Json → Option α) : Option α :=
  read? (j.fieldOrNull key)

/-- A numeric column. -/
def numeric? (j : Json) : Option Numeric := (text? j).bind Numeric.read?

/-- A row of the invoices. -/
def invoiceRow (j : Json) : InvoiceRow where
  invoiceId := column j "invoice_id" text?
  vendorId := column j "vendor_id" text?
  vendorReference := column j "vendor_reference" text?
  date := column j "invoice_date" date?
  poNumber := column j "po_number" text?
  currency := column j "currency" text?

/-- A row of the invoice lines. -/
def invoiceLineRow (j : Json) : InvoiceLineRow where
  invoiceId := column j "invoice_id" text?
  lineNum := column j "line_num" int32?
  description := column j "description" text?
  quantity := column j "quantity" numeric?
  unit := column j "unit_of_measure" text?
  unitPrice := column j "unit_price" numeric?
  amount := column j "amount" numeric?
  poLineRef := column j "po_line_ref" int32?
  receiptRef := column j "gr_document_ref" text?
  materialCode := column j "material_code" text?

/-- A row of the purchase orders. -/
def orderRow (j : Json) : OrderRow where
  poNumber := column j "po_number" text?
  vendorId := column j "vendor_id" text?
  created := column j "created_date" date?
  closed := column j "closed" bool?

/-- A row of the purchase order lines. -/
def orderLineRow (j : Json) : OrderLineRow where
  poNumber := column j "po_number" text?
  lineNum := column j "line_num" int32?
  description := column j "description" text?
  quantity := column j "quantity" numeric?
  unitPrice := column j "unit_price" numeric?
  materialCode := column j "material_code" text?
  costCenter := column j "cost_center" text?

/-- A row of the receipts. -/
def receiptRow (j : Json) : ReceiptRow where
  document := column j "gr_document" text?
  lineNum := column j "line_num" int32?
  poLineNum := column j "po_line_num" int32?
  quantity := column j "received_quantity" numeric?
  date := column j "received_date" date?

/-- A row of the vendors. -/
def vendorRow (j : Json) : VendorRow where
  vendorId := column j "vendor_id" text?
  paymentBlock := column j "payment_block" bool?
  reliability := column j "reliability_score" int32?

/-- A row of the posted invoices. -/
def postedRow (j : Json) : PostedRow where
  invoiceId := column j "invoice_id" text?
  vendorId := column j "vendor_id" text?
  vendorReference := column j "vendor_reference" text?
  poNumber := column j "po_number" text?
  total := column j "total_amount" numeric?

/-- The rows of a table, if it is there. -/
def rows (j : Json) (table : String) (row : Json → ρ) : Option (List ρ) :=
  match j.field? table with
  | some (.array js) => some (js.map row)
  | _ => none

/-- The tables of the ledger. -/
def tables (j : Json) : Tables where
  invoices := rows j "ap_invoice" invoiceRow
  invoiceLines := rows j "ap_invoice_line" invoiceLineRow
  orders := rows j "po_header" orderRow
  orderLines := rows j "po_line" orderLineRow
  receipts := rows j "gr_record" receiptRow
  vendors := rows j "vendor_master" vendorRow
  posted := rows j "ap_posted_invoice" postedRow

end Payables.Wire
