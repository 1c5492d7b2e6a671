import Payables.Matching.Score
import Payables.Proofs.Document.Reordered
import Payables.Proofs.Matching.Bisimulation

/-!
# Boards with other receipts

The lines of a purchase order stand on a board in ascending order, and the invoice lines have their
turns in ascending order, so of the order of the documents a board keeps that of the receipts only;
and of the receipts a line looks only at those of the document that it names.
`Board.SameReceipts` relates two boards that differ at most in the order of their receipts and in
those of documents that no line names.  No line sees the difference (`bisimulation`), so the boards
are played alike (`play`), and every line has the same outcome (`outcome_eq`).
-/

namespace Payables

namespace Board

variable {b b' : Board} {ls ls' : List InvoiceLine} {named : String → Prop}

/-- Two boards with the same receipts of each `named` document, in whatever order. -/
structure SameReceipts (named : String → Prop) (b b' : Board) : Prop where
  entries : b.entries = b'.entries
  receipts : ∀ document, named document → (b.receipts.filter fun r => r.document == document).Perm
    (b'.receipts.filter fun r => r.document == document)
  claims : b.claims = b'.claims

/-- The document that a line names, if it names one, is a `named` one. -/
def NamesOnly (named : String → Prop) (l : InvoiceLine) : Prop :=
  ∀ document, l.receiptRef = some document → named document

namespace SameReceipts

theorem free_eq (h : SameReceipts named b b') : b.free = b'.free := by
  simp only [free, isClaimed, h.entries, h.claims]

theorem assignment?_eq (h : SameReceipts named b b') (n : ℤ) :
    b.assignment? n = b'.assignment? n := by
  simp only [assignment?, h.claims]

theorem isAssigned_eq (h : SameReceipts named b b') (n : ℤ) : b.isAssigned n = b'.isAssigned n := by
  simp only [isAssigned, h.assignment?_eq]

theorem outcome_eq (h : SameReceipts named b b') : b.outcome = b'.outcome := by
  funext l
  unfold outcome
  rw [h.assignment?_eq]

theorem claim (h : SameReceipts named b b') (n : ℤ) (a : Assignment) :
    SameReceipts named (b.claim n a) (b'.claim n a) :=
  ⟨h.entries, h.receipts, congrArg (List.cons (⟨n, a⟩ : BoardClaim)) h.claims⟩

theorem bisimulation :
    Bisimulation (fun l l' => l = l' ∧ NamesOnly named l) (SameReceipts named) where
  lineNum hl := congrArg InvoiceLine.lineNum hl.1
  propose h hl s := hl.1 ▸ propose_congr h.free_eq (fun _ hd => h.receipts _ (hl.2 _ hd)) s
  isAssigned h := h.isAssigned_eq
  free h := h.free_eq ▸ List.forall₂_refl _
  claim h := h.claim

end SameReceipts

/-- Lines that are numbered apart are played alike in any order. -/
theorem play_eq_of_perm (h : ls.Perm ls') (hnodup : (ls.map InvoiceLine.lineNum).Nodup)
    (b : Board) : play ls b = play ls' b := by
  have hordered : inOrder ls = inOrder ls' := sortBy_eq_of_perm InvoiceLine.lineNum h hnodup
  rw [play_eq, play_eq, hordered]

/-- **Boards are played alike**, whatever receipts there are of documents that no line names. -/
theorem SameReceipts.play (h : SameReceipts named b b') (ls : List InvoiceLine)
    (hnamed : ∀ l ∈ ls, NamesOnly named l) :
    SameReceipts named (play ls b) (play ls b') :=
  bisimulation.play h (List.forall₂_same.2 fun l hl => ⟨rfl, hnamed l hl⟩)

theorem sameReceipts_ofOrder {po po' : PurchaseOrder} (h : po.Reordered po') (hv : po.Valid)
    {receipts receipts' : List GoodsReceipt} (hreceipts : receipts.Perm receipts') :
    SameReceipts (fun _ => True) (ofOrder po receipts) (ofOrder po' receipts') where
  entries := by
    refine sortBy_eq_of_perm (fun e : BoardEntry => e.line.lineNum) (h.lines.map _) ?_
    rw [List.map_map]
    exact hv.lineNums_nodup
  receipts _ _ := hreceipts.filter _
  claims := rfl

end Board

/-- An outcome is scored alike on both purchase orders. -/
theorem InvoiceLine.score_eq_of_reordered {po po' : PurchaseOrder} (h : po.Reordered po')
    (hv : po.Valid) (l : InvoiceLine) (o : LineOutcome) :
    l.score (some po) o = l.score (some po') o := by
  cases o with
  | unplanned => rfl
  | unmatched => rfl
  | assigned a => simp only [score, assignedResult, h.line?_eq hv, h.poNumber]

end Payables
