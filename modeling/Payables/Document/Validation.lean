/-
# Validation of snapshots

A snapshot is accepted when every line belongs to the invoice, the line numbers are distinct and
the amounts agree with quantity times price, and when the purchase order that the header names is
supplied with lines of its own and distinct numbers.
-/
import Payables.Error
import Payables.Document.Snapshot

namespace Payables.Snapshot

/-- What is wrong with an invoice line, given the line numbers that came before it. -/
def lineError? (h : InvoiceHeader) (seen : List Int) (l : InvoiceLine) : Option EvaluationError :=
  if l.invoiceId ≠ h.invoiceId then some (.foreignLine h.invoiceId l.invoiceId l.lineNum)
  else if seen.contains l.lineNum then some (.duplicateInvoiceLine h.invoiceId l.lineNum)
  else if l.amountAgrees then none
  else some (.amountMismatch l.invoiceId l.lineNum l.amount l.expectedAmount)

/-- The first error of the invoice lines. -/
def linesError? (h : InvoiceHeader) : List Int → List InvoiceLine → Option EvaluationError
  | _, [] => none
  | seen, l :: rest =>
    match lineError? h seen l with
    | some e => some e
    | none => linesError? h (l.lineNum :: seen) rest

/-- The first error of the purchase order lines. -/
def orderLinesError? (h : InvoiceHeader) (po : PurchaseOrder) :
    List Int → List PurchaseOrderLine → Option EvaluationError
  | _, [] => none
  | seen, p :: rest =>
    if p.poNumber ≠ po.poNumber then
      some (.purchaseOrderMismatch h.invoiceId po.poNumber p.poNumber)
    else if seen.contains p.lineNum then some (.duplicatePoLine po.poNumber p.lineNum)
    else orderLinesError? h po (p.lineNum :: seen) rest

/-- The first error of the purchase order that the header names. -/
def orderError? (s : Snapshot) : Option EvaluationError :=
  match s.header.poNumber, s.purchaseOrder with
  | none, _ => none
  | some number, none => some (.missingPurchaseOrder s.header.invoiceId number)
  | some number, some po =>
    if number ≠ po.poNumber then
      some (.purchaseOrderMismatch s.header.invoiceId number po.poNumber)
    else orderLinesError? s.header po [] po.lines

/-- The first error of a snapshot: those of the invoice lines come first. -/
def error? (s : Snapshot) : Option EvaluationError :=
  match linesError? s.header [] s.lines with
  | some e => some e
  | none => s.orderError?

/-- Accept a snapshot without errors. -/
def validate (s : Snapshot) : Except EvaluationError Unit :=
  match s.error? with
  | some e => .error e
  | none => .ok ()

end Payables.Snapshot
