import Payables.Proofs.Matching.Bisimulation
import Payables.Proofs.Matching.Outcome
import Payables.Proofs.Ranking.Top

/-!
# Trials against foreign orders

A trial against an order that the invoice does not name sees the goods of the invoice, and nothing
of the documents around it.  The references of its lines to lines of the own order and the receipts
are left out, so that a reference to a receipt document finds nothing, and the own order, the vendor
and the history are not looked at.

* `play_of_sameButReceipt` — without receipts, lines that differ in their receipt documents are
  played alike.
* `trialScore_foreign` — two snapshots of the same goods have the same trials against foreign
  orders.
* `rankCandidates_foreign` — so they have the same candidates in a pool of foreign orders.
-/

namespace Payables

/-! ## The same goods -/

namespace InvoiceLine

/-- Lines that differ at most in what they refer to. -/
def SameGoods (l l' : InvoiceLine) : Prop :=
  ∃ poLineRef receiptRef, l' = { l with poLineRef := poLineRef, receiptRef := receiptRef }

/-- Lines that differ at most in the receipt document that they refer to. -/
def SameButReceipt (l l' : InvoiceLine) : Prop :=
  ∃ receiptRef, l' = { l with receiptRef := receiptRef }

variable {l l' : InvoiceLine}

theorem SameGoods.sameButReceipt (h : l.SameGoods l') :
    ({ l with poLineRef := none } : InvoiceLine).SameButReceipt { l' with poLineRef := none } := by
  obtain ⟨_, receiptRef, rfl⟩ := h
  exact ⟨receiptRef, rfl⟩

theorem SameButReceipt.lineNum_eq (h : l.SameButReceipt l') : l.lineNum = l'.lineNum := by
  obtain ⟨_, rfl⟩ := h
  rfl

theorem SameButReceipt.score_eq (h : l.SameButReceipt l') (po : Option PurchaseOrder)
    (o : LineOutcome) : l.score po o = l'.score po o := by
  obtain ⟨_, rfl⟩ := h
  cases o <;> rfl

end InvoiceLine

section Lines

variable {ls ls' : List InvoiceLine}

theorem scoreLines_of_sameButReceipt (h : List.Forall₂ InvoiceLine.SameButReceipt ls ls')
    (po : Option PurchaseOrder) (os : List LineOutcome) :
    scoreLines po (ls.zip os) = scoreLines po (ls'.zip os) := by
  induction h generalizing os with
  | nil => rfl
  | cons hl _ ih =>
    cases os with
    | nil => rfl
    | cons o os => simp only [List.zip_cons_cons, scoreLines, hl.score_eq, ih]

/-! ## Boards without receipts -/

namespace Board

variable {b : Board}

/-- Without receipts no receipt document leads anywhere. -/
theorem proposeReceipt_eq_none (hb : b.receipts = []) (l : InvoiceLine) :
    b.proposeReceipt l = none := by
  unfold proposeReceipt
  cases l.receiptRef with
  | none => rfl
  | some document => simp [hb, Received.ofReceipts]

/-- Without receipts, lines do not see the receipt documents that they refer to. -/
theorem sameButReceipt_bisimulation :
    Bisimulation InvoiceLine.SameButReceipt fun b b' => b = b' ∧ b.receipts = [] where
  lineNum := InvoiceLine.SameButReceipt.lineNum_eq
  propose := by
    rintro b _ l l' ⟨rfl, hb⟩ hl s
    cases s with
    | grXref => exact (proposeReceipt_eq_none hb l).trans (proposeReceipt_eq_none hb l').symm
    | keyBased | vendorMaterial | semantic | qtyPrice | elimination =>
      obtain ⟨_, rfl⟩ := hl
      rfl
  isAssigned := by
    rintro b _ ⟨rfl, -⟩ n
    rfl
  free := by
    rintro b _ ⟨rfl, -⟩
    exact List.forall₂_refl _
  claim := by
    rintro b _ ⟨rfl, hb⟩ n a
    exact ⟨rfl, hb⟩

/-- **Without receipts**, lines that differ in their receipt documents are played alike. -/
theorem play_of_sameButReceipt (hb : b.receipts = [])
    (h : List.Forall₂ InvoiceLine.SameButReceipt ls ls') : play ls b = play ls' b :=
  (sameButReceipt_bisimulation.play ⟨rfl, hb⟩ h).1

end Board

end Lines

/-! ## Trials -/

namespace Snapshot

variable {s s' : Snapshot} {po : PurchaseOrder} {pool : List PurchaseOrder}

/-- Two snapshots of one invoice that agree on its goods.  The own orders, the receipts, the vendors
and the histories may be anything. -/
structure SameGoods (s s' : Snapshot) : Prop where
  invoiceId : s.header.invoiceId = s'.header.invoiceId
  lines : List.Forall₂ InvoiceLine.SameGoods s.lines s'.lines

/-- Two trials against one order without receipts. -/
structure TrialsOf (po : PurchaseOrder) (t t' : Snapshot) : Prop where
  invoiceId : t.header.invoiceId = t'.header.invoiceId
  lines : List.Forall₂ InvoiceLine.SameButReceipt t.lines t'.lines
  named : t.header.poNumber = some po.poNumber ∧ t'.header.poNumber = some po.poNumber
  supplied : t.purchaseOrder = some po ∧ t'.purchaseOrder = some po
  receipts : t.receipts = [] ∧ t'.receipts = []

/-- The trials of the same goods against a foreign order. -/
theorem SameGoods.trialsOf (h : s.SameGoods s') (hn : s.header.poNumber ≠ some po.poNumber)
    (hn' : s'.header.poNumber ≠ some po.poNumber) :
    TrialsOf po (s.retarget po) (s'.retarget po) := by
  rw [retarget, if_neg hn, retarget, if_neg hn']
  exact
    { invoiceId := h.invoiceId
      lines := by
        rw [List.forall₂_map_left_iff, List.forall₂_map_right_iff]
        exact h.lines.imp fun _ _ hl => hl.sameButReceipt
      named := ⟨rfl, rfl⟩
      supplied := ⟨rfl, rfl⟩
      receipts := ⟨rfl, rfl⟩ }

theorem linesError?_of_sameButReceipt {h h' : InvoiceHeader} {ls ls' : List InvoiceLine}
    (hid : h.invoiceId = h'.invoiceId) (hls : List.Forall₂ InvoiceLine.SameButReceipt ls ls')
    (seen : List ℤ) : linesError? h seen ls = linesError? h' seen ls' := by
  induction hls generalizing seen with
  | nil => rfl
  | cons hl _ ih =>
    obtain ⟨_, rfl⟩ := hl
    simp only [linesError?, lineError?, hid, ih]
    rfl

theorem orderLinesError?_of_invoiceId {h h' : InvoiceHeader} (hid : h.invoiceId = h'.invoiceId)
    (po : PurchaseOrder) (seen : List ℤ) (ps : List PurchaseOrderLine) :
    orderLinesError? h po seen ps = orderLinesError? h' po seen ps := by
  induction ps generalizing seen with
  | nil => rfl
  | cons p ps ih => simp only [orderLinesError?, hid, ih]

namespace TrialsOf

variable {t t' : Snapshot}

theorem validate_eq (h : TrialsOf po t t') : t.validate = t'.validate := by
  simp only [validate, error?, orderError?, h.named, h.supplied, h.invoiceId,
    linesError?_of_sameButReceipt h.invoiceId h.lines, orderLinesError?_of_invoiceId h.invoiceId]

/-- Both are matched, and alike. -/
theorem exists_outcomes (h : TrialsOf po t t') :
    ∃ os, t.matchLines = .ok os ∧ t'.matchLines = .ok os := by
  have hplay : (Board.ofOrder po []).play t.lines = (Board.ofOrder po []).play t'.lines :=
    Board.play_of_sameButReceipt rfl h.lines
  have hmap : t.lines.map ((Board.ofOrder po []).play t.lines).outcome =
      t'.lines.map ((Board.ofOrder po []).play t'.lines).outcome := by
    rw [hplay]
    refine map_eq_of_related h.lines fun l l' hl => ?_
    unfold Board.outcome
    rw [hl.lineNum_eq]
  refine ⟨_, matchWithPrior_eq_ok_iff.2 ⟨rfl, Or.inr ⟨_, po, _, h.named.1, h.supplied.1, rfl, rfl⟩⟩,
    matchWithPrior_eq_ok_iff.2 ⟨rfl, Or.inr ⟨_, po, _, h.named.2, h.supplied.2, rfl, ?_⟩⟩⟩
  rw [h.receipts.1, h.receipts.2]
  exact hmap

end TrialsOf

/-- **Trials against foreign orders** see the goods of an invoice only. -/
theorem trialScore_foreign (h : s.SameGoods s') (hn : s.header.poNumber ≠ some po.poNumber)
    (hn' : s'.header.poNumber ≠ some po.poNumber) : s.trialScore po = s'.trialScore po := by
  have htrials := h.trialsOf hn hn'
  obtain ⟨os, hos, hos'⟩ := htrials.exists_outcomes
  simp only [trialScore, htrials.validate_eq, hos, hos', htrials.supplied]
  refine bind_congr fun _ => ?_
  show (scoreLines (some po) ((s.retarget po).lines.zip os) >>= _) =
    scoreLines (some po) ((s'.retarget po).lines.zip os) >>= _
  rw [scoreLines_of_sameButReceipt htrials.lines]

/-- **Candidates do not show the own documents.**  Two snapshots of one invoice with the same goods
have the same candidates in every pool without the orders that they name, whatever their orders,
receipts, vendors and histories are, and whatever their lines refer to. -/
theorem rankCandidates_foreign (h : s.SameGoods s')
    (hn : ∀ po ∈ pool, s.header.poNumber ≠ some po.poNumber)
    (hn' : ∀ po ∈ pool, s'.header.poNumber ≠ some po.poNumber) (limit : ℕ) :
    s.rankCandidates pool limit = s'.rankCandidates pool limit := by
  have hcandidates : (firstOfNumber [] pool).filterMap s.candidate? =
      (firstOfNumber [] pool).filterMap s'.candidate? := by
    refine List.filterMap_congr fun po hpo => ?_
    have hmem := (firstOfNumber_sublist [] pool).subset hpo
    unfold candidate?
    rw [trialScore_foreign h (hn po hmem) (hn' po hmem)]
  unfold rankCandidates
  rw [hcandidates]

/-- The goods of the office invoice, billed without an order.  Both lines refer to the first line of
whatever order they are tried against, and to a receipt that is posted against it. -/
def referringOffice : Snapshot where
  header := ⟨"I-2", "V-9", "R-9", ⟨2024, 2, 2⟩, none, "EUR"⟩
  lines := [{ officeLine 2 "white paper" (some 1) with receiptRef := some "G-1" },
    { officeLine 1 "sundries" (some 1) with receiptRef := some "G-1" }]
  receipts := [⟨"G-1", 1, some 1, Decimal.ofInt 3, ⟨2024, 1, 30⟩⟩]
  vendor := { paymentBlock := true }
  posted := [⟨"V-9", "R-9", none, Decimal.ofInt 24⟩]

set_option maxRecDepth 4000 in
/-- White paper is found in the other order, and the references of the sundries find nothing. -/
theorem referringOffice_candidates :
    office.rankCandidates [stationeryOrder] 3 = [⟨"P-3", 1, some 75⟩] ∧
      referringOffice.rankCandidates [stationeryOrder] 3 = [⟨"P-3", 1, some 75⟩] := by
  have hoffice : office.rankCandidates [stationeryOrder] 3 = [⟨"P-3", 1, some 75⟩] := by
    decide +kernel
  have hgoods : office.SameGoods referringOffice :=
    ⟨rfl, .cons ⟨_, _, rfl⟩ (.cons ⟨_, _, rfl⟩ .nil)⟩
  have hforeign : ∀ po ∈ [stationeryOrder], office.header.poNumber ≠ some po.poNumber := by
    decide
  have hforeign' : ∀ po ∈ [stationeryOrder],
      referringOffice.header.poNumber ≠ some po.poNumber := by decide
  exact ⟨hoffice, (rankCandidates_foreign hgoods hforeign hforeign' 3).symm.trans hoffice⟩

end Snapshot
end Payables
