import Payables.Guardrail.Context
import Payables.Proofs.Document.Receipt
import Payables.Proofs.Document.Validation
import Payables.Proofs.Related

/-!
# Documents in another order

An invoice lists its lines in some order, and so do the purchase order, the receipts and the
invoices posted before.  `Snapshot.Reordered` relates two snapshots that differ in nothing else.
What is looked up by number, summed or searched for is the same for both: whether they are valid
(`valid_iff`), the lines of the purchase order (`line?_eq`), whether the invoice was posted before
(`isDuplicate_eq`), and the quantities received (`received_eq`).
-/

namespace Payables

/-! ## Purchase orders -/

/-- Purchase orders with the same lines, in whatever order. -/
structure PurchaseOrder.Reordered (po po' : PurchaseOrder) : Prop where
  header : po.toPurchaseOrderHeader = po'.toPurchaseOrderHeader
  lines : po.lines.Perm po'.lines

namespace PurchaseOrder.Reordered

variable {po po' : PurchaseOrder}

theorem symm (h : po.Reordered po') : po'.Reordered po := ⟨h.header.symm, h.lines.symm⟩

theorem poNumber (h : po.Reordered po') : po.poNumber = po'.poNumber :=
  congrArg PurchaseOrderHeader.poNumber h.header

theorem created (h : po.Reordered po') : po.created = po'.created :=
  congrArg PurchaseOrderHeader.created h.header

theorem valid (h : po.Reordered po') (hv : po.Valid) : po'.Valid where
  poNumber := by
    intro q hq
    rw [hv.poNumber q (h.lines.mem_iff.2 hq), h.poNumber]
  lineNums_nodup := (h.lines.map _).nodup_iff.1 hv.lineNums_nodup

/-- A line is found by its number wherever it stands. -/
theorem line?_eq (h : po.Reordered po') (hv : po.Valid) (n : ℤ) : po.line? n = po'.line? n :=
  find?_key_eq_of_perm PurchaseOrderLine.lineNum h.lines hv.lineNums_nodup n

end PurchaseOrder.Reordered

/-! ## Snapshots -/

namespace Snapshot

/-- Snapshots with the same documents, each of them in whatever order. -/
structure Reordered (s s' : Snapshot) : Prop where
  header : s.header = s'.header
  lines : s.lines.Perm s'.lines
  purchaseOrder : Option.Rel PurchaseOrder.Reordered s.purchaseOrder s'.purchaseOrder
  receipts : s.receipts.Perm s'.receipts
  vendor : s.vendor = s'.vendor
  posted : s.posted.Perm s'.posted

namespace Reordered

variable {s s' : Snapshot}

theorem order_cases (h : s.Reordered s') :
    (s.purchaseOrder = none ∧ s'.purchaseOrder = none) ∨
      ∃ po po', s.purchaseOrder = some po ∧ s'.purchaseOrder = some po' ∧ po.Reordered po' :=
  option_related_cases h.purchaseOrder

theorem symm (h : s.Reordered s') : s'.Reordered s where
  header := h.header.symm
  lines := h.lines.symm
  purchaseOrder := by
    rcases h.order_cases with ⟨hs, hs'⟩ | ⟨po, po', hs, hs', hpo⟩
    · rw [hs, hs']
      exact Option.Rel.none
    · rw [hs, hs']
      exact Option.Rel.some hpo.symm
  receipts := h.receipts.symm
  vendor := h.vendor.symm
  posted := h.posted.symm

theorem valid (h : s.Reordered s') (hv : s.Valid) : s'.Valid where
  invoiceId := by
    intro l hl
    rw [← h.header]
    exact hv.invoiceId l (h.lines.mem_iff.2 hl)
  lineNums_nodup := (h.lines.map _).nodup_iff.1 hv.lineNums_nodup
  amounts := by
    intro l hl
    exact hv.amounts l (h.lines.mem_iff.2 hl)
  order := by
    intro number hn
    obtain ⟨po, hp, hnum, hpo⟩ := hv.order number (h.header ▸ hn)
    rcases h.order_cases with ⟨hs, -⟩ | ⟨po₁, po', hs, hs', hre⟩
    · rw [hs] at hp
      cases hp
    · obtain rfl : po₁ = po := Option.some.inj (hs.symm.trans hp)
      exact ⟨po', hs', hre.poNumber ▸ hnum, hre.valid hpo⟩

theorem valid_iff (h : s.Reordered s') : s.Valid ↔ s'.Valid := ⟨h.valid, h.symm.valid⟩

theorem total_eq (h : s.Reordered s') : s.total = s'.total := Decimal.sum_perm (h.lines.map _)

theorem received_eq (h : s.Reordered s') : s.received = s'.received :=
  Received.ofReceipts_perm h.receipts

theorem isDuplicate_eq (h : s.Reordered s') : s.isDuplicate = s'.isDuplicate := by
  have hrepeat : s.isRepeatOf = s'.isRepeatOf := by
    funext i
    unfold isRepeatOf
    rw [h.header, h.total_eq]
  unfold isDuplicate
  rw [hrepeat, Bool.eq_iff_iff, List.any_eq_true, List.any_eq_true]
  simp only [h.posted.mem_iff]

theorem predatesOrder_eq (h : s.Reordered s') :
    Guardrail.predatesOrder s = Guardrail.predatesOrder s' := by
  unfold Guardrail.predatesOrder
  rcases h.order_cases with ⟨hs, hs'⟩ | ⟨po, po', hs, hs', hpo⟩
  · rw [hs, hs']
  · rw [hs, hs']
    simp only [h.header, hpo.created]

end Reordered
end Snapshot
end Payables
