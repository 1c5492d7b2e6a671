import Payables.Proofs.Document.Faults
import Payables.Proofs.Ledger.Load
import Payables.Proofs.Ledger.Queries
import Payables.Proofs.Matching.Outcome
import Payables.Proofs.Matching.Reordered

/-!
# Loaded snapshots are coherent

A snapshot is loaded by keys: the lines by the number of the invoice, the purchase order and its
lines by the number that the header names, the receipts by the documents that the lines name.

* `Loads.coherent` — so whatever is loaded belongs together, and validation has nothing to say about
  that (`Coherent.validate_ne`).
* `receipts_perm` — the receipts are those of the documents that are named, all of them.
* `matchLines_eq_of_named` — matching looks at no others, so it comes to the same with the whole
  table of receipts (`snapshot_coherent`).
-/

namespace Payables

namespace Snapshot

variable {s : Snapshot}

/-! ## What belongs together -/

/-- The lines belong to the invoice, and the purchase order that is there is the one that is named,
with its own lines. -/
structure Coherent (s : Snapshot) : Prop where
  lines : ∀ l ∈ s.lines, l.invoiceId = s.header.invoiceId
  order : ∀ number po, s.header.poNumber = some number → s.purchaseOrder = some po →
    po.poNumber = number ∧ ∀ p ∈ po.lines, p.poNumber = number

/-- A coherent snapshot is not refused for what belongs to another document. -/
theorem Coherent.validate_ne (h : s.Coherent) :
    (∀ expected found n, s.validate ≠ .error (.foreignLine expected found n)) ∧
      ∀ invoiceId expected found,
        s.validate ≠ .error (.purchaseOrderMismatch invoiceId expected found) := by
  constructor
  · intro expected found n herr
    obtain ⟨hsplit, -, hfault⟩ | ⟨-, hfault⟩ := validate_eq_error_iff.1 herr
    · cases hfault with
      | foreign hid => exact hid (h.lines _ (hsplit ▸ by simp))
    · cases hfault with
      | line _ _ _ _ hfault => cases hfault
  · intro invoiceId expected found herr
    obtain ⟨-, -, hfault⟩ | ⟨-, hfault⟩ := validate_eq_error_iff.1 herr
    · cases hfault
    · cases hfault with
      | mismatch hn hp hnumber => exact hnumber (h.order _ _ hn hp).1.symm
      | line hn hp hsplit _ hfault =>
        cases hfault with
        | foreign hpo => exact hpo ((h.order _ _ hn hp).2 _ (hsplit ▸ by simp))

/-! ## Receipts that no line names -/

/-- Some line names this document. -/
def names (s : Snapshot) (document : String) : Bool :=
  s.lines.any fun l => l.receiptRef == some document

/-- **Matching looks at the receipts that the lines name**, in whatever order. -/
theorem matchLines_eq_of_named {receipts : List GoodsReceipt}
    (h : ∀ document, s.names document = true →
      (s.receipts.filter fun r => r.document == document).Perm
        (receipts.filter fun r => r.document == document)) :
    { s with receipts := receipts }.matchLines = s.matchLines := by
  cases hn : s.header.poNumber with
  | none =>
    have hn' : { s with receipts := receipts }.header.poNumber = none := hn
    rw [matchLines_of_unordered hn', matchLines_of_unordered hn]
  | some number =>
    cases hp : s.purchaseOrder with
    | none => simp only [matchLines, matchWithPrior, MatchResult.checkPrior, hn, hp]
    | some po =>
      have hsame : Board.SameReceipts (fun document => s.names document = true)
          (Board.ofOrder po s.receipts) (Board.ofOrder po receipts) := ⟨rfl, h, rfl⟩
      have hplayed := hsame.play s.lines fun l hl document hdocument =>
        List.any_eq_true.2 ⟨l, hl, by rw [hdocument]; exact beq_self_eq_true _⟩
      simp only [matchLines, matchWithPrior, MatchResult.checkPrior, hn, hp, Board.seed]
      exact congrArg (fun outcome => Except.ok (s.lines.map outcome)) hplayed.outcome_eq.symm

end Snapshot

namespace Ledger

theorem mem_receiptDocuments_iff {s : Snapshot} {document : String} :
    document ∈ receiptDocuments s.lines ↔ s.names document = true := by
  have tri : ∀ a b : String, textLt a b = false → textLt b a = false → a = b := by
    intro a b hab hba
    simp only [textLt, decide_eq_false_iff_not, not_lt] at hab hba
    exact le_antisymm hba hab
  rw [receiptDocuments, mem_sortUnique tri, List.mem_filterMap, Snapshot.names, List.any_eq_true]
  simp only [beq_iff_eq]

namespace Tables

variable {t : Tables} {id : String} {s : Snapshot}

/-- What is loaded belongs together. -/
theorem Loads.coherent (h : t.Loads id s) : s.Coherent where
  lines l hl := by
    rw [invoiceId_of_linesOfInvoice h.lines hl, invoiceId_of_findInvoice h.header]
  order number po hn hp := by
    have horder := h.order
    rw [orderOf, hn, hp] at horder
    obtain ⟨hheader, hlines⟩ := findOrder_eq_some_iff.1 horder
    refine ⟨poNumber_of_findOrderHeader hheader, fun p hmem => ?_⟩
    exact List.mem_singleton.1 (poNumber_mem_of_linesOfOrders hlines hmem)

/-- The receipts are those of the rows that carry a document which is named. -/
theorem Loads.receipts_perm (h : t.Loads id s) :
    (s.receipts.map some).Perm
      (((t.receipts.getD []).filter fun r => r.document.any s.names).map ReceiptRow.receipt?) := by
  have hselect : ((t.receipts.getD []).filter fun r => r.document.any s.names) =
      (t.receipts.getD []).filter fun r => holdsOneOf r.document (receiptDocuments s.lines) := by
    refine List.filter_congr fun r _ => ?_
    rw [Bool.eq_iff_iff, holdsOneOf_iff, Option.any_eq_true]
    simp only [mem_receiptDocuments_iff]
    exact exists_congr fun document => and_comm
  rw [hselect]
  exact receiptsOf_perm h.receipts

/-- Of a document that is named, the table has no other receipts than those that are loaded. -/
theorem Loads.receipts_filter_perm (h : t.Loads id s) {receipts : List GoodsReceipt}
    (hall : receipts.Perm ((t.receipts.getD []).filterMap ReceiptRow.receipt?)) {document : String}
    (hnamed : s.names document = true) :
    (s.receipts.filter fun r => r.document == document).Perm
      (receipts.filter fun r => r.document == document) := by
  have hread : ∀ (r : ReceiptRow) (x : GoodsReceipt), r.receipt? = some x →
      holds r.document document = (x.document == document) := by
    intro r x hx
    rw [ReceiptRow.document_of_receipt? hx, holds]
    rfl
  have hloaded : s.receipts.Perm
      (((t.receipts.getD []).filter fun r => r.document.any s.names).filterMap
        ReceiptRow.receipt?) := by
    have hperm := h.receipts_perm.filterMap fun x => x
    rw [List.filterMap_map, List.filterMap_map] at hperm
    change (s.receipts.filterMap some).Perm (List.filterMap ReceiptRow.receipt? _) at hperm
    rwa [List.filterMap_some] at hperm
  refine (hloaded.filter _).trans (.trans (.of_eq ?_) (hall.filter _).symm)
  rw [filter_filterMap_read hread, filter_filterMap_read hread, List.filter_filter]
  congr 1
  refine List.filter_congr fun r _ => ?_
  rw [Bool.eq_iff_iff, Bool.and_eq_true, holds_iff]
  constructor
  · exact And.left
  · intro hdocument
    exact ⟨hdocument, by rw [hdocument]; exact hnamed⟩

/-- **Loaded snapshots are coherent**, and the receipts that are loaded are enough.  Validation
never refuses a loaded snapshot for a line of another invoice or for another purchase order.  Its
receipts are the records of just the rows whose document a line names, and matching gives the same
outcomes with the receipts of the whole table, all that can be read as such, in any order. -/
theorem snapshot_coherent (h : t.snapshot id = .ok s) :
    (∀ expected found n, s.validate ≠ .error (.foreignLine expected found n)) ∧
      (∀ invoiceId expected found,
        s.validate ≠ .error (.purchaseOrderMismatch invoiceId expected found)) ∧
      (s.receipts.map some).Perm
        (((t.receipts.getD []).filter fun r => r.document.any s.names).map ReceiptRow.receipt?) ∧
      ∀ receipts, receipts.Perm ((t.receipts.getD []).filterMap ReceiptRow.receipt?) →
        { s with receipts := receipts }.matchLines = s.matchLines := by
  have hloads := snapshot_eq_ok_iff.1 h
  obtain ⟨hlines, horder⟩ := hloads.coherent.validate_ne
  refine ⟨hlines, horder, hloads.receipts_perm, fun receipts hall => ?_⟩
  exact Snapshot.matchLines_eq_of_named fun document hnamed =>
    hloads.receipts_filter_perm hall hnamed

/-! ## Two deliveries for one line

Both were posted against the same line of the order; the invoice names the second of them. -/

/-- A row of a receipt of an ordered line. -/
def deliveryRow (document : String) (quantity : ℤ) : ReceiptRow where
  document := some document
  lineNum := some 1
  poLineNum := some 10
  quantity := some (.number (Decimal.ofInt quantity))
  date := some ⟨2024, 1, 2⟩

/-- The tables. -/
def twoDeliveries : Tables where
  invoices := some [⟨some "I-6", some "V-1", some "R-6", some ⟨2024, 1, 3⟩, some "P-6", some "USD"⟩]
  invoiceLines := some [
    { invoiceId := some "I-6"
      lineNum := some 1
      description := some "goods as delivered"
      quantity := some (.number (Decimal.ofInt 5))
      unit := some "EA"
      unitPrice := some (.number (Decimal.ofInt 7))
      amount := some (.number (Decimal.ofInt 35))
      poLineRef := none
      receiptRef := some "G-2"
      materialCode := none }]
  orders := some [⟨some "P-6", some "V-1", some ⟨2024, 1, 1⟩, some false⟩]
  orderLines := some [
    { poNumber := some "P-6"
      lineNum := some 10
      description := some "copper wire"
      quantity := some (.number (Decimal.ofInt 80))
      unitPrice := some (.number (Decimal.ofInt 90))
      materialCode := none
      costCenter := none }]
  receipts := some [deliveryRow "G-1" 3, deliveryRow "G-2" 5]
  vendors := some []
  posted := some []

set_option maxRecDepth 4000 in
/-- The receipt of the second delivery is loaded, and the line is matched by it with full
confidence, although the other delivery was posted against the same line. -/
theorem twoDeliveries_coherent :
    ∃ s receipts, twoDeliveries.snapshot "I-6" = .ok s ∧
      s.receipts.map GoodsReceipt.document = ["G-2"] ∧
      receipts.map GoodsReceipt.document = ["G-1", "G-2"] ∧
      s.matchLines = .ok [.assigned ⟨10, .grXref, 65⟩] ∧
      { s with receipts := receipts }.matchLines = .ok [.assigned ⟨10, .grXref, 65⟩] := by
  have hloaded : (twoDeliveries.snapshot "I-6").toOption.map (fun s =>
      (s.receipts.map GoodsReceipt.document, s.matchLines.toOption)) =
      some (["G-2"], some [.assigned ⟨10, .grXref, 65⟩]) := by
    decide +kernel
  obtain ⟨s, h, hread⟩ := exists_ok_of_map_eq hloaded
  obtain ⟨hreceipts, hmatched⟩ := Prod.mk.inj hread
  obtain ⟨os, hos⟩ : ∃ os, s.matchLines = .ok os := exists_ok_of_isSome (by rw [hmatched]; rfl)
  rw [hos] at hmatched
  obtain rfl := Option.some.inj hmatched
  obtain ⟨-, -, -, hwhole⟩ := snapshot_coherent h
  exact ⟨s, _, h, hreceipts, by decide +kernel, hos, (hwhole _ (.refl _)).trans hos⟩

end Tables
end Ledger
end Payables
