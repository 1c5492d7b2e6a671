import Payables.Proofs.Document.SameValues
import Payables.Proofs.Matching.Bisimulation
import Payables.Proofs.Matching.Score

/-!
# Matching does not look at how decimals are written

Two boards are played side by side, with lines that differ in the writing of their decimals only.
As long as the percentages that are measured between them agree, every proposal, every turn and the
elimination do the same on both.

* `Faithful` — relations between lines under which the percentages agree.
* `Mirrors` — boards with related lines and the same claims; `propose_eq` says that they look alike
  to related lines, so they are played alike (`Mirrors.play`).
* `score_eq`, `scoreLines_eq` — the outcomes are scored alike.
-/

namespace Payables

/-- Relations between invoice lines and between lines of a purchase order: related lines are equal
up to the writing of their decimals, and the percentages that are measured between them agree. -/
structure Faithful (R : InvoiceLine → InvoiceLine → Prop)
    (Q : PurchaseOrderLine → PurchaseOrderLine → Prop) : Prop where
  invoiceLine : ∀ {l l'}, R l l' → l.SameValues l'
  orderLine : ∀ {q q'}, Q q q' → q.SameValues q'
  price : ∀ {l l' q q'}, R l l' → Q q q' →
    percentChange l.unitPrice q.unitPrice = percentChange l'.unitPrice q'.unitPrice
  quantity : ∀ {l l' q q'}, R l l' → Q q q' →
    percentChange l.quantity q.quantity = percentChange l'.quantity q'.quantity

section Faithful

variable {R : InvoiceLine → InvoiceLine → Prop} {Q : PurchaseOrderLine → PurchaseOrderLine → Prop}
  {l l' : InvoiceLine} {ls ls' : List InvoiceLine}

namespace Board

variable {b b' : Board}

/-- Entries of two boards for related lines. -/
def EntryMirrors (Q : PurchaseOrderLine → PurchaseOrderLine → Prop) (e e' : BoardEntry) : Prop :=
  Q e.line e'.line ∧ e.tokens = e'.tokens

/-- Boards with related lines and receipts, on which the same has been claimed. -/
structure Mirrors (Q : PurchaseOrderLine → PurchaseOrderLine → Prop) (b b' : Board) : Prop where
  entries : List.Forall₂ (EntryMirrors Q) b.entries b'.entries
  receipts : List.Forall₂ GoodsReceipt.SameValues b.receipts b'.receipts
  claims : b.claims = b'.claims

namespace Mirrors

theorem isAssigned_eq (h : Mirrors Q b b') (n : ℤ) : b.isAssigned n = b'.isAssigned n := by
  unfold isAssigned assignment?
  rw [h.claims]

theorem claim (h : Mirrors Q b b') (n : ℤ) (a : Assignment) :
    Mirrors Q (b.claim n a) (b'.claim n a) where
  entries := h.entries
  receipts := h.receipts
  claims := congrArg (BoardClaim.mk n a :: ·) h.claims

theorem outcome_eq (h : Mirrors Q b b') (hnum : l.lineNum = l'.lineNum) :
    b.outcome l = b'.outcome l' := by
  unfold outcome assignment?
  rw [h.claims, hnum]

end Mirrors

variable (hf : Faithful R Q)

include hf

theorem EntryMirrors.lineNum {e e' : BoardEntry} (he : EntryMirrors Q e e') :
    e.line.lineNum = e'.line.lineNum :=
  (hf.orderLine he.1).lineNum

/-- The free lines are related. -/
theorem Mirrors.free (h : Mirrors Q b b') :
    List.Forall₂ (EntryMirrors Q) b.free b'.free := by
  refine filter_related h.entries fun e e' he => ?_
  rw [EntryMirrors.lineNum hf he, isClaimed, isClaimed, h.claims]

/-! ## Proposals -/

theorem best_eq {es es' : List BoardEntry} (hes : List.Forall₂ (EntryMirrors Q) es es')
    (better : Binary64 → Binary64 → Bool) {score score' : BoardEntry → Option Binary64}
    (hscore : ∀ e e', EntryMirrors Q e e' → score e = score' e') :
    best better score es = best better score' es' := by
  unfold best
  refine List.rel_foldl (P := Eq) (R := EntryMirrors Q) ?_ rfl hes
  rintro found _ rfl e e' he
  beta_reduce
  rw [hscore e e' he, EntryMirrors.lineNum hf he]

theorem proposeKey_eq (h : Mirrors Q b b') (hl : R l l') : b.proposeKey l = b'.proposeKey l' := by
  unfold proposeKey
  rw [(hf.invoiceLine hl).poLineRef]
  split
  · rfl
  · exact option_map_eq_of_related
      (find?_related (h.free hf) fun e e' he => by rw [EntryMirrors.lineNum hf he])
      fun e e' he => by rw [EntryMirrors.lineNum hf he]

theorem proposeMaterial_eq (h : Mirrors Q b b') (hl : R l l') :
    b.proposeMaterial l = b'.proposeMaterial l' := by
  unfold proposeMaterial
  rw [(hf.invoiceLine hl).materialCode]
  split
  · rfl
  · exact option_map_eq_of_related
      (find?_related (h.free hf) fun e e' he => by rw [(hf.orderLine he.1).materialCode])
      fun e e' he => by rw [EntryMirrors.lineNum hf he]

theorem proposeSemantic_eq (h : Mirrors Q b b') (hl : R l l') :
    b.proposeSemantic l = b'.proposeSemantic l' := by
  have hsimilarity : ∀ tokens e e', EntryMirrors Q e e' →
      similarityTo tokens e = similarityTo tokens e' := by
    intro tokens e e' he
    simp only [similarityTo, he.2]
  simp only [proposeSemantic, (hf.invoiceLine hl).description]
  rw [best_eq hf (h.free hf) _ (hsimilarity _)]

theorem proposeQtyPrice_eq (h : Mirrors Q b b') (hl : R l l') :
    b.proposeQtyPrice l = b'.proposeQtyPrice l' := by
  have hdeviation : ∀ e e', EntryMirrors Q e e' → deviationTo l e = deviationTo l' e' := by
    intro e e' he
    unfold deviationTo
    rw [hf.price hl he.1, hf.quantity hl he.1]
  unfold proposeQtyPrice
  rw [best_eq hf (h.free hf) _ hdeviation]

theorem proposeReceipt_eq (h : Mirrors Q b b') (hl : R l l') :
    b.proposeReceipt l = b'.proposeReceipt l' := by
  unfold proposeReceipt
  rw [(hf.invoiceLine hl).receiptRef]
  split
  · rfl
  · rename_i document _
    have hposted : List.Forall₂ GoodsReceipt.SameValues
        (b.receipts.filter fun r => r.document == document)
        (b'.receipts.filter fun r => r.document == document) :=
      filter_related h.receipts fun r r' hr => by rw [hr.rest]
    have hfree : ∀ n, (b.free.any fun e => e.line.lineNum == n)
        = b'.free.any fun e => e.line.lineNum == n := by
      intro n
      exact any_eq_of_related (h.free hf) fun e e' he => by rw [EntryMirrors.lineNum hf he]
    refine option_map_eq_of_related
      (find?_related (Received.ofReceipts_sameValues hposted) fun e e' he => ?_) fun e e' he => ?_
    · rw [he.1, hfree]
    · have heqv : e.2.eqv l.quantity = e'.2.eqv l'.quantity := by
        simp only [Decimal.eqv, he.2, (hf.invoiceLine hl).quantity]
      simp only [he.1, heqv]

/-- **Every strategy proposes the same** on both boards. -/
theorem propose_eq (h : Mirrors Q b b') (s : Strategy) (hl : R l l') :
    b.propose s l = b'.propose s l' := by
  cases s with
  | keyBased => exact proposeKey_eq hf h hl
  | vendorMaterial => exact proposeMaterial_eq hf h hl
  | semantic => exact proposeSemantic_eq hf h hl
  | qtyPrice => exact proposeQtyPrice_eq hf h hl
  | grXref => exact proposeReceipt_eq hf h hl
  | elimination => rfl

/-! ## Runs -/

theorem mirrors_bisimulation : Bisimulation R (Mirrors Q) where
  lineNum hl := (hf.invoiceLine hl).lineNum
  propose h hl s := propose_eq hf h s hl
  isAssigned h := h.isAssigned_eq
  free h := (h.free hf).imp fun _ _ he => EntryMirrors.lineNum hf he
  claim h := h.claim

/-- **Playing keeps the boards side by side.** -/
theorem Mirrors.play (h : Mirrors Q b b') (hls : List.Forall₂ R ls ls') :
    Mirrors Q (play ls b) (play ls' b') :=
  (mirrors_bisimulation hf).play h hls

theorem mirrors_ofOrder {po po' : PurchaseOrder} (hlines : List.Forall₂ Q po.lines po'.lines)
    {receipts receipts' : List GoodsReceipt}
    (hreceipts : List.Forall₂ GoodsReceipt.SameValues receipts receipts') :
    Mirrors Q (ofOrder po receipts) (ofOrder po' receipts') where
  entries := by
    refine sortBy_related (fun _ _ he => EntryMirrors.lineNum hf he) ?_
    rw [List.forall₂_map_left_iff, List.forall₂_map_right_iff]
    exact hlines.imp fun q q' hq => ⟨hq, by rw [(hf.orderLine hq).description]⟩
  receipts := hreceipts
  claims := rfl

end Board

/-! ## Scores -/

variable (hf : Faithful R Q)

include hf

theorem measure_eq {q q' : PurchaseOrderLine} (hl : R l l') (hq : Q q q') :
    Variance.measure l q = Variance.measure l' q' := by
  unfold Variance.measure
  rw [hf.price hl hq, hf.quantity hl hq]

theorem line?_related {po po' : PurchaseOrder} (h : List.Forall₂ Q po.lines po'.lines) (n : ℤ) :
    Option.Rel Q (po.line? n) (po'.line? n) :=
  find?_related h fun q q' hq => by rw [(hf.orderLine hq).lineNum]

/-- Orders of one number with related lines. -/
structure OrderMirrors (Q : PurchaseOrderLine → PurchaseOrderLine → Prop)
    (po po' : PurchaseOrder) : Prop where
  poNumber : po.poNumber = po'.poNumber
  lines : List.Forall₂ Q po.lines po'.lines

/-- **An outcome is scored alike** for related lines. -/
theorem score_eq {po? po?' : Option PurchaseOrder} (hpo : Option.Rel (OrderMirrors Q) po? po?')
    (hl : R l l') (o : LineOutcome) : l.score po? o = l'.score po?' o := by
  have hsame := hf.invoiceLine hl
  have hunmatched : l.unmatchedResult = l'.unmatchedResult := by
    simp only [InvoiceLine.unmatchedResult, hsame.invoiceId, hsame.lineNum]
  cases o with
  | unplanned => simp only [InvoiceLine.score, InvoiceLine.unplannedResult, hunmatched]
  | unmatched => simp only [InvoiceLine.score, hunmatched]
  | assigned a =>
    cases hpo with
    | none => simp only [InvoiceLine.score, hsame.lineNum]
    | @some po po' hpo =>
      have hline := line?_related hf hpo.lines a.poLine
      simp only [InvoiceLine.score]
      generalize po.line? a.poLine = q? at *
      generalize po'.line? a.poLine = q?' at *
      cases hline with
      | none => simp only [hsame.lineNum, hpo.poNumber]
      | some hq =>
        simp only [InvoiceLine.assignedResult, hunmatched, measure_eq hf hl hq, hpo.poNumber,
          (hf.orderLine hq).lineNum]

theorem scoreLines_eq {po? po?' : Option PurchaseOrder} (hpo : Option.Rel (OrderMirrors Q) po? po?')
    (hls : List.Forall₂ R ls ls') (os : List LineOutcome) :
    scoreLines po? (ls.zip os) = scoreLines po?' (ls'.zip os) := by
  induction hls generalizing os with
  | nil => rfl
  | cons hl _ ih =>
    cases os with
    | nil => rfl
    | cons o os => simp only [List.zip_cons_cons, scoreLines, score_eq hf hpo hl, ih]

end Faithful
end Payables
