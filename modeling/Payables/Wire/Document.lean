/-
# Exchange form of documents

Invoices, purchase orders, receipts and snapshots as exchange values.
-/
import Payables.Wire.Scalar
import Payables.Document.Snapshot

namespace Payables.Wire

/-! ## Invoices -/

/-- Read a header. -/
def header? (j : Json) : Option InvoiceHeader := do
  let j ← record?
    [ "invoice_id", "vendor_id", "vendor_reference", "invoice_date", "po_number", "currency" ] [] j
  some
    { invoiceId := ← field? j "invoice_id" text?
      vendorId := ← field? j "vendor_id" text?
      vendorReference := ← field? j "vendor_reference" text?
      date := ← field? j "invoice_date" date?
      poNumber := ← field? j "po_number" (optional? text?)
      currency := ← field? j "currency" text? }

/-- Write a header. -/
def header (h : InvoiceHeader) : Json :=
  .object
    [ ("invoice_id", .text h.invoiceId), ("vendor_id", .text h.vendorId),
      ("vendor_reference", .text h.vendorReference), ("invoice_date", date h.date),
      ("po_number", optional .text h.poNumber), ("currency", .text h.currency) ]

/-- Read an invoice line. -/
def invoiceLine? (j : Json) : Option InvoiceLine := do
  let j ← record?
    [ "invoice_id", "line_num", "description", "quantity", "unit_of_measure", "unit_price",
      "amount", "po_line_ref", "gr_document_ref", "material_code" ] [] j
  some
    { invoiceId := ← field? j "invoice_id" text?
      lineNum := ← field? j "line_num" int32?
      description := ← field? j "description" text?
      quantity := ← field? j "quantity" decimal?
      unit := ← field? j "unit_of_measure" text?
      unitPrice := ← field? j "unit_price" decimal?
      amount := ← field? j "amount" decimal?
      poLineRef := ← field? j "po_line_ref" (optional? int32?)
      receiptRef := ← field? j "gr_document_ref" (optional? text?)
      materialCode := ← field? j "material_code" (optional? text?) }

/-- Write an invoice line. -/
def invoiceLine (l : InvoiceLine) : Json :=
  .object
    [ ("invoice_id", .text l.invoiceId), ("line_num", .integer l.lineNum),
      ("description", .text l.description), ("quantity", decimal l.quantity),
      ("unit_of_measure", .text l.unit), ("unit_price", decimal l.unitPrice),
      ("amount", decimal l.amount), ("po_line_ref", optional .integer l.poLineRef),
      ("gr_document_ref", optional .text l.receiptRef),
      ("material_code", optional .text l.materialCode) ]

/-- Read a posted invoice. -/
def posted? (j : Json) : Option PostedInvoice := do
  let j ← record? ["vendor_id", "vendor_reference", "po_number", "total_amount"] [] j
  some
    { vendorId := ← field? j "vendor_id" text?
      vendorReference := ← field? j "vendor_reference" text?
      poNumber := ← field? j "po_number" (optional? text?)
      total := ← field? j "total_amount" decimal? }

/-- Write a posted invoice. -/
def posted (p : PostedInvoice) : Json :=
  .object
    [ ("vendor_id", .text p.vendorId), ("vendor_reference", .text p.vendorReference),
      ("po_number", optional .text p.poNumber), ("total_amount", decimal p.total) ]

/-! ## Purchase orders -/

/-- Read a purchase order line. -/
def orderLine? (j : Json) : Option PurchaseOrderLine := do
  let j ← record?
    [ "po_number", "line_num", "description", "quantity", "unit_price", "material_code",
      "cost_center" ] [] j
  some
    { poNumber := ← field? j "po_number" text?
      lineNum := ← field? j "line_num" int32?
      description := ← field? j "description" text?
      quantity := ← field? j "quantity" decimal?
      unitPrice := ← field? j "unit_price" decimal?
      materialCode := ← field? j "material_code" (optional? text?)
      costCenter := ← field? j "cost_center" (optional? text?) }

/-- Write a purchase order line. -/
def orderLine (l : PurchaseOrderLine) : Json :=
  .object
    [ ("po_number", .text l.poNumber), ("line_num", .integer l.lineNum),
      ("description", .text l.description), ("quantity", decimal l.quantity),
      ("unit_price", decimal l.unitPrice), ("material_code", optional .text l.materialCode),
      ("cost_center", optional .text l.costCenter) ]

/-- Read the header of a purchase order. -/
def orderHeader? (j : Json) : Option PurchaseOrderHeader := do
  let j ← record? ["po_number", "vendor_id", "created_date"] [] j
  some
    { poNumber := ← field? j "po_number" text?
      vendorId := ← field? j "vendor_id" text?
      created := ← field? j "created_date" date? }

/-- Read a purchase order. -/
def order? (j : Json) : Option PurchaseOrder := do
  let j ← record? ["po_number", "vendor_id", "created_date", "lines"] [] j
  let h ← orderHeader? j
  some { toPurchaseOrderHeader := h, lines := ← field? j "lines" (list? orderLine?) }

/-- Write a purchase order. -/
def order (po : PurchaseOrder) : Json :=
  .object
    [ ("po_number", .text po.poNumber), ("vendor_id", .text po.vendorId),
      ("created_date", date po.created), ("lines", list orderLine po.lines) ]

/-- The name of a purchase order line. -/
def lineRef? (j : Json) : Option PoLineRef := do
  let j ← record? ["po_number", "line_num"] [] j
  some
    { poNumber := ← field? j "po_number" text?
      lineNum := ← field? j "line_num" int32? }

/-- Write the name of a purchase order line. -/
def lineRef (r : PoLineRef) : Json :=
  .object [("po_number", .text r.poNumber), ("line_num", .integer r.lineNum)]

/-! ## Context -/

/-- Read a goods receipt. -/
def receipt? (j : Json) : Option GoodsReceipt := do
  let j ← record?
    [ "gr_document", "line_num", "po_line_num", "received_quantity", "received_date" ] [] j
  some
    { document := ← field? j "gr_document" text?
      lineNum := ← field? j "line_num" int32?
      poLineNum := ← field? j "po_line_num" (optional? int32?)
      quantity := ← field? j "received_quantity" decimal?
      date := ← field? j "received_date" date? }

/-- Write a goods receipt. -/
def receipt (r : GoodsReceipt) : Json :=
  .object
    [ ("gr_document", .text r.document), ("line_num", .integer r.lineNum),
      ("po_line_num", optional .integer r.poLineNum),
      ("received_quantity", decimal r.quantity), ("received_date", date r.date) ]

/-- Read what is known about a vendor. -/
def vendor? (j : Json) : Option Vendor := do
  let j ← record? ["payment_block", "reliability_score"] [] j
  some
    { paymentBlock := ← field? j "payment_block" bool?
      reliability := ← field? j "reliability_score" (optional? int32?) }

/-- Write what is known about a vendor. -/
def vendor (v : Vendor) : Json :=
  .object
    [ ("payment_block", .bool v.paymentBlock),
      ("reliability_score", optional .integer v.reliability) ]

/-- Read a snapshot.  Only the invoice itself is required. -/
def snapshot? (j : Json) : Option Snapshot := do
  let j ← record? ["header", "lines"] ["purchase_order", "receipts", "vendor", "posted_history"] j
  some
    { header := ← field? j "header" header?
      lines := ← field? j "lines" (list? invoiceLine?)
      purchaseOrder := ← field? j "purchase_order" (optional? order?)
      receipts := ← fieldOr? j "receipts" [] (list? receipt?)
      vendor := ← fieldOr? j "vendor" {} vendor?
      posted := ← fieldOr? j "posted_history" [] (list? posted?) }

/-- Write a snapshot. -/
def snapshot (s : Snapshot) : Json :=
  .object
    [ ("header", header s.header), ("lines", list invoiceLine s.lines),
      ("purchase_order", optional order s.purchaseOrder), ("receipts", list receipt s.receipts),
      ("vendor", vendor s.vendor), ("posted_history", list posted s.posted) ]

end Payables.Wire
