import Payables.Guardrail.Context
import Payables.Proofs.Decimal.Value
import Payables.Proofs.Document.Validation
import Payables.Proofs.Related

/-!
# Documents that differ in the writing of decimals

`2.50` and `2.5` are two decimals of one value.  `Snapshot.SameValues` relates two snapshots that
are equal up to that.  What is compared by value is the same for both: whether they are valid
(`valid_iff`), whether the invoice was posted before (`isDuplicate_eq`), and how the quantities
received compare with those invoiced (`exceedsReceipt_eq`).
-/

namespace Payables

/-! ## Lines and records -/

/-- Lines of an invoice that are equal up to the writing of their decimals. -/
structure InvoiceLine.SameValues (l l' : InvoiceLine) : Prop where
  quantity : l.quantity.value = l'.quantity.value
  unitPrice : l.unitPrice.value = l'.unitPrice.value
  amount : l.amount.value = l'.amount.value
  rest : l' =
    { l with quantity := l'.quantity, unitPrice := l'.unitPrice, amount := l'.amount }

/-- Lines of a purchase order that are equal up to the writing of their decimals. -/
structure PurchaseOrderLine.SameValues (q q' : PurchaseOrderLine) : Prop where
  quantity : q.quantity.value = q'.quantity.value
  unitPrice : q.unitPrice.value = q'.unitPrice.value
  rest : q' = { q with quantity := q'.quantity, unitPrice := q'.unitPrice }

/-- Purchase orders that are equal up to the writing of their decimals. -/
structure PurchaseOrder.SameValues (po po' : PurchaseOrder) : Prop where
  header : po.toPurchaseOrderHeader = po'.toPurchaseOrderHeader
  lines : List.Forall₂ PurchaseOrderLine.SameValues po.lines po'.lines

/-- Receipts that are equal up to the writing of the quantity. -/
structure GoodsReceipt.SameValues (r r' : GoodsReceipt) : Prop where
  quantity : r.quantity.value = r'.quantity.value
  rest : r' = { r with quantity := r'.quantity }

/-- Posted invoices that are equal up to the writing of the total. -/
structure PostedInvoice.SameValues (i i' : PostedInvoice) : Prop where
  total : i.total.value = i'.total.value
  rest : i' = { i with total := i'.total }

namespace InvoiceLine.SameValues

variable {l l' : InvoiceLine}

theorem invoiceId (h : l.SameValues l') : l.invoiceId = l'.invoiceId := by rw [h.rest]

theorem lineNum (h : l.SameValues l') : l.lineNum = l'.lineNum := by rw [h.rest]

theorem description (h : l.SameValues l') : l.description = l'.description := by rw [h.rest]

theorem poLineRef (h : l.SameValues l') : l.poLineRef = l'.poLineRef := by rw [h.rest]

theorem receiptRef (h : l.SameValues l') : l.receiptRef = l'.receiptRef := by rw [h.rest]

theorem materialCode (h : l.SameValues l') : l.materialCode = l'.materialCode := by rw [h.rest]

/-- The amount that is expected does not depend on the writing. -/
theorem expectedAmount (h : l.SameValues l') :
    l.expectedAmount.value = l'.expectedAmount.value := by
  rw [InvoiceLine.expectedAmount, InvoiceLine.expectedAmount, Decimal.value_round,
    Decimal.value_round, Decimal.value_mul, Decimal.value_mul, h.quantity, h.unitPrice]

theorem amountAgrees (h : l.SameValues l') : l.amountAgrees = l'.amountAgrees := by
  simp only [InvoiceLine.amountAgrees, Decimal.lt, Decimal.value_abs, Decimal.value_sub, h.amount,
    h.expectedAmount]

end InvoiceLine.SameValues

namespace PurchaseOrderLine.SameValues

variable {q q' : PurchaseOrderLine}

theorem poNumber (h : q.SameValues q') : q.poNumber = q'.poNumber := by rw [h.rest]

theorem lineNum (h : q.SameValues q') : q.lineNum = q'.lineNum := by rw [h.rest]

theorem description (h : q.SameValues q') : q.description = q'.description := by rw [h.rest]

theorem materialCode (h : q.SameValues q') : q.materialCode = q'.materialCode := by rw [h.rest]

end PurchaseOrderLine.SameValues

namespace PurchaseOrder.SameValues

variable {po po' : PurchaseOrder}

theorem poNumber (h : po.SameValues po') : po.poNumber = po'.poNumber :=
  congrArg PurchaseOrderHeader.poNumber h.header

theorem created (h : po.SameValues po') : po.created = po'.created :=
  congrArg PurchaseOrderHeader.created h.header

theorem valid_iff (h : po.SameValues po') : po.Valid ↔ po'.Valid := by
  have hnumbers : po.lines.map PurchaseOrderLine.lineNum =
      po'.lines.map PurchaseOrderLine.lineNum :=
    map_eq_of_related h.lines fun _ _ hq => hq.lineNum
  have howned : (∀ q ∈ po.lines, q.poNumber = po.poNumber) ↔
      ∀ q ∈ po'.lines, q.poNumber = po'.poNumber :=
    forall_iff_of_related h.lines fun q q' hq => by rw [hq.poNumber, h.poNumber]
  constructor
  · intro hv
    exact ⟨howned.1 hv.poNumber, hnumbers ▸ hv.lineNums_nodup⟩
  · intro hv
    exact ⟨howned.2 hv.poNumber, hnumbers ▸ hv.lineNums_nodup⟩

end PurchaseOrder.SameValues

/-! ## Received quantities -/

namespace Received

/-- Received quantities at the same lines and of the same values. -/
def SameValues : Received → Received → Prop :=
  List.Forall₂ fun e e' => e.1 = e'.1 ∧ e.2.value = e'.2.value

variable {received received' : Received}

theorem SameValues.add (h : SameValues received received') (n : ℤ) {q q' : Decimal}
    (hq : q.value = q'.value) :
    SameValues (Received.add n q received) (Received.add n q' received') := by
  have hfirst : (Decimal.zero.add q).value = (Decimal.zero.add q').value := by
    rw [Decimal.value_add, Decimal.value_add, hq]
  induction h with
  | nil => exact List.Forall₂.cons ⟨rfl, hfirst⟩ List.Forall₂.nil
  | @cons e e' r r' he hr ih =>
    obtain ⟨k, p⟩ := e
    obtain ⟨k', p'⟩ := e'
    obtain ⟨rfl, hp⟩ : k = k' ∧ p.value = p'.value := he
    simp only [Received.add]
    split
    · exact List.Forall₂.cons ⟨rfl, hfirst⟩ (List.Forall₂.cons ⟨rfl, hp⟩ hr)
    · split
      · refine List.Forall₂.cons ⟨rfl, ?_⟩ hr
        rw [Decimal.value_add, Decimal.value_add, hp, hq]
      · exact List.Forall₂.cons ⟨rfl, hp⟩ ih

theorem SameValues.post (h : SameValues received received') {r r' : GoodsReceipt}
    (hr : r.SameValues r') :
    SameValues (Received.post received r) (Received.post received' r') := by
  have hline : r.poLineNum = r'.poLineNum := by rw [hr.rest]
  unfold Received.post
  rw [hline]
  split
  · exact h.add _ hr.quantity
  · exact h

theorem SameValues.at? (h : SameValues received received') (n : ℤ) :
    Option.Rel (fun q q' => q.value = q'.value) (received.at? n) (received'.at? n) :=
  option_map_related (find?_related h fun e e' he => by rw [he.1]) fun _ _ he => he.2

theorem ofReceipts_sameValues {rs rs' : List GoodsReceipt}
    (h : List.Forall₂ GoodsReceipt.SameValues rs rs') :
    SameValues (ofReceipts rs) (ofReceipts rs') := by
  refine List.rel_foldl (P := SameValues) (R := GoodsReceipt.SameValues) ?_ List.Forall₂.nil h
  intro done done' hdone r r' hr
  exact hdone.post hr

end Received

/-! ## Snapshots -/

namespace Snapshot

/-- Snapshots that are equal up to the writing of their decimals. -/
structure SameValues (s s' : Snapshot) : Prop where
  header : s.header = s'.header
  lines : List.Forall₂ InvoiceLine.SameValues s.lines s'.lines
  purchaseOrder : Option.Rel PurchaseOrder.SameValues s.purchaseOrder s'.purchaseOrder
  receipts : List.Forall₂ GoodsReceipt.SameValues s.receipts s'.receipts
  vendor : s.vendor = s'.vendor
  posted : List.Forall₂ PostedInvoice.SameValues s.posted s'.posted

namespace SameValues

variable {s s' : Snapshot}

theorem order_cases (h : s.SameValues s') :
    (s.purchaseOrder = none ∧ s'.purchaseOrder = none) ∨
      ∃ po po', s.purchaseOrder = some po ∧ s'.purchaseOrder = some po' ∧ po.SameValues po' :=
  option_related_cases h.purchaseOrder

theorem valid_iff (h : s.SameValues s') : s.Valid ↔ s'.Valid := by
  have hnumbers : s.lines.map InvoiceLine.lineNum = s'.lines.map InvoiceLine.lineNum :=
    map_eq_of_related h.lines fun _ _ hl => hl.lineNum
  have howned : (∀ l ∈ s.lines, l.invoiceId = s.header.invoiceId) ↔
      ∀ l ∈ s'.lines, l.invoiceId = s'.header.invoiceId :=
    forall_iff_of_related h.lines fun l l' hl => by rw [hl.invoiceId, h.header]
  have hamounts : (∀ l ∈ s.lines, l.amountAgrees = true) ↔ ∀ l ∈ s'.lines, l.amountAgrees = true :=
    forall_iff_of_related h.lines fun l l' hl => by rw [hl.amountAgrees]
  have horder : (∀ number, s.header.poNumber = some number →
        ∃ po, s.purchaseOrder = some po ∧ po.poNumber = number ∧ po.Valid) ↔
      ∀ number, s'.header.poNumber = some number →
        ∃ po, s'.purchaseOrder = some po ∧ po.poNumber = number ∧ po.Valid := by
    rw [h.header]
    rcases h.order_cases with ⟨hs, hs'⟩ | ⟨po, po', hs, hs', hpo⟩
    · simp [hs, hs']
    · simp [hs, hs', hpo.poNumber, hpo.valid_iff]
  constructor
  · intro hv
    exact ⟨howned.1 hv.invoiceId, hnumbers ▸ hv.lineNums_nodup, hamounts.1 hv.amounts,
      horder.1 hv.order⟩
  · intro hv
    exact ⟨howned.2 hv.invoiceId, hnumbers ▸ hv.lineNums_nodup, hamounts.2 hv.amounts,
      horder.2 hv.order⟩

theorem total_eq (h : s.SameValues s') : s.total.value = s'.total.value := by
  have hamounts : s.lines.map (fun l => l.amount.value) = s'.lines.map fun l => l.amount.value :=
    map_eq_of_related h.lines fun _ _ hl => hl.amount
  rw [total, total, Decimal.value_sum, Decimal.value_sum, List.map_map, List.map_map]
  exact congrArg List.sum hamounts

theorem isDuplicate_eq (h : s.SameValues s') : s.isDuplicate = s'.isDuplicate := by
  refine any_eq_of_related h.posted fun i i' hi => ?_
  have hvendor : i.vendorId = i'.vendorId := by rw [hi.rest]
  have hreference : i.vendorReference = i'.vendorReference := by rw [hi.rest]
  have hnumber : i.poNumber = i'.poNumber := by rw [hi.rest]
  simp only [isRepeatOf, Decimal.eqv, h.header, h.total_eq, hi.total, hvendor, hreference, hnumber]

theorem predatesOrder_eq (h : s.SameValues s') :
    Guardrail.predatesOrder s = Guardrail.predatesOrder s' := by
  unfold Guardrail.predatesOrder
  rcases h.order_cases with ⟨hs, hs'⟩ | ⟨po, po', hs, hs', hpo⟩
  · rw [hs, hs']
  · rw [hs, hs']
    simp only [h.header, hpo.created]

theorem exceedsReceipt_eq (h : s.SameValues s') {l l' : InvoiceLine} (hl : l.SameValues l')
    (r : MatchResult) :
    Guardrail.exceedsReceipt s.received l r = Guardrail.exceedsReceipt s'.received l' r := by
  have hreceived : Received.SameValues s.received s'.received :=
    Received.ofReceipts_sameValues h.receipts
  unfold Guardrail.exceedsReceipt
  cases r.poLine with
  | none => rfl
  | some ref =>
    have hat := hreceived.at? ref.lineNum
    simp only [Option.bind_some]
    generalize s.received.at? ref.lineNum = q? at *
    generalize s'.received.at? ref.lineNum = q?' at *
    cases hat with
    | some hq => simp only [Decimal.lt, hq, hl.quantity]
    | none => rfl

end SameValues
end Snapshot
end Payables
