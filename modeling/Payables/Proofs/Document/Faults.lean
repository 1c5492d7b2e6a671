import Payables.Proofs.Decimal.Value
import Payables.Proofs.Document.Validation

/-!
# The first fault of a snapshot

Validation scans the invoice lines and then the lines of the purchase order, and stops at the first
thing that is wrong.

* `InvoiceLine.amountAgrees_iff` — the check of an amount is the comparison of exact numbers: the
  amount is within a hundredth of quantity times price, rounded to two places
  (`InvoiceLine.exactAmount`).
* `firstFault_eq_some_iff` — what a scan ends with is the fault of an element, and nothing is wrong
  with those before it.
* `Snapshot.FirstFault` — the fault of a snapshot, in terms that mention no scan.
* `Snapshot.validate_iff` — validation accepts the well-formed snapshots and refuses the others with
  their first fault.
-/

namespace Payables

/-! ## Amounts -/

namespace InvoiceLine

/-- Quantity times price in exact arithmetic, rounded to two places with a half going away from
zero. -/
def exactAmount (l : InvoiceLine) : ℚ :=
  Decimal.nearest (l.quantity.value * l.unitPrice.value * 100) / 100

/-- The amount is within a hundredth of what quantity and price give. -/
def AmountHolds (l : InvoiceLine) : Prop := |l.amount.value - l.exactAmount| ≤ 1 / 100

/-- A product of no more than two places is not changed. -/
theorem exactAmount_of_hundredths {l : InvoiceLine} {n : ℤ}
    (h : l.quantity.value * l.unitPrice.value = n / 100) :
    l.exactAmount = l.quantity.value * l.unitPrice.value := by
  rw [exactAmount, h, div_mul_cancel₀ _ (by norm_num), Decimal.nearest_intCast]

theorem value_expectedAmount (l : InvoiceLine) : l.expectedAmount.value = l.exactAmount := by
  have hplaces : (10 : ℚ) ^ (2 : ℤ) = 100 := by norm_num
  have hplace : (10 : ℚ) ^ (-2 : ℤ) = 1 / 100 := by norm_num
  rw [expectedAmount, Decimal.value_round, Decimal.value_mul, hplaces, hplace, mul_one_div,
    exactAmount]

theorem amountAgrees_iff {l : InvoiceLine} : l.amountAgrees = true ↔ l.AmountHolds := by
  have htolerance : amountTolerance.value = 1 / 100 := by
    rw [amountTolerance, Decimal.value_mk]
    norm_num
  rw [amountAgrees, Decimal.lt, htolerance, Decimal.value_abs, Decimal.value_sub,
    value_expectedAmount, AmountHolds]
  simp

end InvoiceLine

/-! ## Scans -/

section Scan

variable {α ε : Type} {check : List ℤ → α → Option ε} {number : α → ℤ} {seen : List ℤ}
  {xs : List α} {e : ε}

/-- The first error of a list whose elements are checked with the numbers that came before. -/
def firstFault (check : List ℤ → α → Option ε) (number : α → ℤ) : List ℤ → List α → Option ε
  | _, [] => none
  | seen, x :: rest =>
    match check seen x with
    | some e => some e
    | none => firstFault check number (number x :: seen) rest

theorem firstFault_cons_eq_none_iff {x : α} :
    firstFault check number seen (x :: xs) = none ↔
      check seen x = none ∧ firstFault check number (number x :: seen) xs = none := by
  simp only [firstFault]
  cases check seen x <;> simp

theorem firstFault_cons_eq_some_iff {x : α} :
    firstFault check number seen (x :: xs) = some e ↔
      check seen x = some e ∨
        (check seen x = none ∧ firstFault check number (number x :: seen) xs = some e) := by
  simp only [firstFault]
  cases check seen x <;> simp

/-- **Where a scan stops**: at an element that has the fault, after elements that have none. -/
theorem firstFault_eq_some_iff :
    firstFault check number seen xs = some e ↔
      ∃ before x after, xs = before ++ x :: after ∧ firstFault check number seen before = none ∧
        check ((before.map number).reverse ++ seen) x = some e := by
  induction xs generalizing seen with
  | nil =>
    refine iff_of_false nofun ?_
    rintro ⟨before, x, after, hsplit, -⟩
    simp at hsplit
  | cons y ys ih =>
    rw [firstFault_cons_eq_some_iff, ih]
    constructor
    · rintro (hy | ⟨hy, before, x, after, rfl, hbefore, hx⟩)
      · exact ⟨[], y, ys, rfl, rfl, hy⟩
      · refine ⟨y :: before, x, after, rfl, firstFault_cons_eq_none_iff.2 ⟨hy, hbefore⟩, ?_⟩
        simpa using hx
    · rintro ⟨before, x, after, hsplit, hbefore, hx⟩
      cases before with
      | nil =>
        obtain ⟨rfl, rfl⟩ := List.cons.inj hsplit
        exact Or.inl hx
      | cons z before =>
        obtain ⟨rfl, rfl⟩ := List.cons.inj hsplit
        obtain ⟨hz, hbefore⟩ := firstFault_cons_eq_none_iff.1 hbefore
        exact Or.inr ⟨hz, before, x, after, rfl, hbefore, by simpa using hx⟩

end Scan

/-! ## Invoice lines -/

/-- Lines of the invoice, numbered apart, with the amounts that they should have. -/
structure SoundLines (h : InvoiceHeader) (ls : List InvoiceLine) : Prop where
  invoiceId : ∀ l ∈ ls, l.invoiceId = h.invoiceId
  lineNums_nodup : (ls.map InvoiceLine.lineNum).Nodup
  amounts : ∀ l ∈ ls, l.AmountHolds

/-- What is wrong with an invoice line after others: it belongs to another invoice, or else has the
number of one of these, or else an amount that it should not have. -/
inductive LineFault (h : InvoiceHeader) (before : List InvoiceLine) (l : InvoiceLine) :
    EvaluationError → Prop
  | foreign (hid : l.invoiceId ≠ h.invoiceId) :
      LineFault h before l (.foreignLine h.invoiceId l.invoiceId l.lineNum)
  | duplicate (hid : l.invoiceId = h.invoiceId) (hseen : ∃ m ∈ before, m.lineNum = l.lineNum) :
      LineFault h before l (.duplicateInvoiceLine h.invoiceId l.lineNum)
  | amount (hid : l.invoiceId = h.invoiceId) (hnew : ∀ m ∈ before, m.lineNum ≠ l.lineNum)
      (hamount : ¬l.AmountHolds) :
      LineFault h before l (.amountMismatch h.invoiceId l.lineNum l.amount l.expectedAmount)

/-! ## Lines of the purchase order -/

/-- Lines of the purchase order, numbered apart. -/
structure SoundOrderLines (po : PurchaseOrder) (ps : List PurchaseOrderLine) : Prop where
  poNumber : ∀ p ∈ ps, p.poNumber = po.poNumber
  lineNums_nodup : (ps.map PurchaseOrderLine.lineNum).Nodup

/-- What is wrong with a line of a purchase order after others: it belongs to another order, or else
has the number of one of these. -/
inductive OrderLineFault (h : InvoiceHeader) (po : PurchaseOrder)
    (before : List PurchaseOrderLine) (p : PurchaseOrderLine) : EvaluationError → Prop
  | foreign (hpo : p.poNumber ≠ po.poNumber) :
      OrderLineFault h po before p (.purchaseOrderMismatch h.invoiceId po.poNumber p.poNumber)
  | duplicate (hpo : p.poNumber = po.poNumber) (hseen : ∃ q ∈ before, q.lineNum = p.lineNum) :
      OrderLineFault h po before p (.duplicatePoLine po.poNumber p.lineNum)

namespace Snapshot

variable {h : InvoiceHeader} {po : PurchaseOrder} {s : Snapshot} {err : EvaluationError}

theorem lineError?_eq_some_iff {before : List InvoiceLine} {l : InvoiceLine} :
    lineError? h (before.map InvoiceLine.lineNum).reverse l = some err ↔
      LineFault h before l err := by
  unfold lineError?
  constructor
  · intro herr
    split at herr
    · rename_i hid
      cases herr
      exact .foreign hid
    rename_i hid
    split at herr
    · rename_i hseen
      cases herr
      exact .duplicate (not_not.1 hid) (by simpa using hseen)
    rename_i hnew
    split at herr
    · cases herr
    · rename_i hamount
      cases herr
      rw [not_not.1 hid]
      refine .amount (not_not.1 hid) (by simpa using hnew) ?_
      rwa [InvoiceLine.amountAgrees_iff] at hamount
  · rintro (hid | ⟨hid, hseen⟩ | ⟨hid, hnew, hamount⟩)
    · rw [if_pos hid]
    · rw [if_neg (not_not.2 hid), if_pos (by simpa using hseen)]
    · rw [if_neg (not_not.2 hid), if_neg (by simpa using hnew),
        if_neg (by rwa [InvoiceLine.amountAgrees_iff]), hid]

theorem linesError?_eq_firstFault (h : InvoiceHeader) (seen : List ℤ) (ls : List InvoiceLine) :
    linesError? h seen ls = firstFault (lineError? h) InvoiceLine.lineNum seen ls := by
  induction ls generalizing seen with
  | nil => rfl
  | cons l ls ih =>
    simp only [linesError?, firstFault, ih]
    cases lineError? h seen l <;> rfl

theorem linesError?_eq_none_iff_soundLines {ls : List InvoiceLine} :
    linesError? h [] ls = none ↔ SoundLines h ls := by
  rw [linesError?_eq_none_iff, freshNumbers_empty]
  simp only [InvoiceLine.amountAgrees_iff]
  constructor
  · rintro ⟨hid, hnodup, hamounts⟩
    exact ⟨hid, hnodup, hamounts⟩
  · intro hsound
    exact ⟨hsound.invoiceId, hsound.lineNums_nodup, hsound.amounts⟩

/-- The scan of the invoice lines stops at the first line that has a fault. -/
theorem linesError?_eq_some_iff {ls : List InvoiceLine} :
    linesError? h [] ls = some err ↔
      ∃ before l after, ls = before ++ l :: after ∧ SoundLines h before ∧
        LineFault h before l err := by
  rw [linesError?_eq_firstFault, firstFault_eq_some_iff]
  simp only [← linesError?_eq_firstFault, linesError?_eq_none_iff_soundLines, List.append_nil,
    lineError?_eq_some_iff]

/-- What is wrong with a line of the purchase order, given the line numbers that came before. -/
def orderLineError? (h : InvoiceHeader) (po : PurchaseOrder) (seen : List ℤ)
    (p : PurchaseOrderLine) : Option EvaluationError :=
  if p.poNumber ≠ po.poNumber then
    some (.purchaseOrderMismatch h.invoiceId po.poNumber p.poNumber)
  else if seen.contains p.lineNum then some (.duplicatePoLine po.poNumber p.lineNum)
  else none

theorem orderLineError?_eq_some_iff {before : List PurchaseOrderLine} {p : PurchaseOrderLine} :
    orderLineError? h po (before.map PurchaseOrderLine.lineNum).reverse p = some err ↔
      OrderLineFault h po before p err := by
  unfold orderLineError?
  constructor
  · intro herr
    split at herr
    · rename_i hpo
      cases herr
      exact .foreign hpo
    rename_i hpo
    split at herr
    · rename_i hseen
      cases herr
      exact .duplicate (not_not.1 hpo) (by simpa using hseen)
    · cases herr
  · rintro (hpo | ⟨hpo, hseen⟩)
    · rw [if_pos hpo]
    · rw [if_neg (not_not.2 hpo), if_pos (by simpa using hseen)]

theorem orderLinesError?_eq_firstFault (h : InvoiceHeader) (po : PurchaseOrder) (seen : List ℤ)
    (ps : List PurchaseOrderLine) :
    orderLinesError? h po seen ps =
      firstFault (orderLineError? h po) PurchaseOrderLine.lineNum seen ps := by
  induction ps generalizing seen with
  | nil => rfl
  | cons p ps ih =>
    simp only [orderLinesError?, firstFault, orderLineError?, ih]
    split
    · rfl
    · split <;> rfl

theorem orderLinesError?_eq_none_iff_soundOrderLines {ps : List PurchaseOrderLine} :
    orderLinesError? h po [] ps = none ↔ SoundOrderLines po ps := by
  rw [orderLinesError?_eq_none_iff, freshNumbers_empty]
  exact ⟨fun ⟨hpo, hnodup⟩ => ⟨hpo, hnodup⟩, fun hsound => ⟨hsound.poNumber, hsound.lineNums_nodup⟩⟩

/-- The scan of the lines of the purchase order stops at the first line that has a fault. -/
theorem orderLinesError?_eq_some_iff {ps : List PurchaseOrderLine} :
    orderLinesError? h po [] ps = some err ↔
      ∃ before p after, ps = before ++ p :: after ∧ SoundOrderLines po before ∧
        OrderLineFault h po before p err := by
  rw [orderLinesError?_eq_firstFault, firstFault_eq_some_iff]
  simp only [← orderLinesError?_eq_firstFault, orderLinesError?_eq_none_iff_soundOrderLines,
    List.append_nil, orderLineError?_eq_some_iff]

/-! ## Snapshots -/

/-- What is wrong with the purchase order of a snapshot: it is missing, is not the one that is
named, or has a line with a fault, the first one of its lines. -/
inductive OrderFault (s : Snapshot) : EvaluationError → Prop
  | missing {number : String} (hn : s.header.poNumber = some number)
      (hp : s.purchaseOrder = none) :
      OrderFault s (.missingPurchaseOrder s.header.invoiceId number)
  | mismatch {number : String} {po : PurchaseOrder} (hn : s.header.poNumber = some number)
      (hp : s.purchaseOrder = some po) (hnumber : number ≠ po.poNumber) :
      OrderFault s (.purchaseOrderMismatch s.header.invoiceId number po.poNumber)
  | line {po : PurchaseOrder} {before after : List PurchaseOrderLine} {p : PurchaseOrderLine}
      {err : EvaluationError} (hn : s.header.poNumber = some po.poNumber)
      (hp : s.purchaseOrder = some po) (hsplit : po.lines = before ++ p :: after)
      (hbefore : SoundOrderLines po before) (hfault : OrderLineFault s.header po before p err) :
      OrderFault s err

/-- What is wrong with a snapshot first: the first invoice line with a fault, or the purchase order
where there is no such line. -/
inductive FirstFault (s : Snapshot) : EvaluationError → Prop
  | line {before after : List InvoiceLine} {l : InvoiceLine} {err : EvaluationError}
      (hsplit : s.lines = before ++ l :: after) (hbefore : SoundLines s.header before)
      (hfault : LineFault s.header before l err) : FirstFault s err
  | order {err : EvaluationError} (hlines : SoundLines s.header s.lines)
      (hfault : OrderFault s err) : FirstFault s err

/-- Nothing is wrong: the invoice lines are sound, and the purchase order that the header names is
there, with that number and sound lines. -/
structure WellFormed (s : Snapshot) : Prop where
  lines : SoundLines s.header s.lines
  order : ∀ number, s.header.poNumber = some number →
    ∃ po, s.purchaseOrder = some po ∧ po.poNumber = number ∧ SoundOrderLines po po.lines

theorem orderError?_eq_some_iff : s.orderError? = some err ↔ s.OrderFault err := by
  unfold orderError?
  constructor
  · intro herr
    split at herr
    · cases herr
    · rename_i number hn hp
      cases herr
      exact .missing hn hp
    · rename_i number po hn hp
      split at herr
      · rename_i hnumber
        cases herr
        exact .mismatch hn hp hnumber
      · rename_i hnumber
        obtain ⟨before, p, after, hsplit, hbefore, hfault⟩ := orderLinesError?_eq_some_iff.1 herr
        rw [not_not.1 hnumber] at hn
        exact .line hn hp hsplit hbefore hfault
  · rintro (⟨hn, hp⟩ | ⟨hn, hp, hnumber⟩ | ⟨hn, hp, hsplit, hbefore, hfault⟩)
    · rw [hn, hp]
    · rw [hn, hp]
      exact if_pos hnumber
    · rw [hn, hp]
      refine (if_neg (not_not.2 rfl)).trans ?_
      exact orderLinesError?_eq_some_iff.2 ⟨_, _, _, hsplit, hbefore, hfault⟩

theorem valid_iff_wellFormed : s.Valid ↔ s.WellFormed := by
  constructor
  · intro hv
    refine ⟨⟨hv.invoiceId, hv.lineNums_nodup, ?_⟩, ?_⟩
    · exact fun l hl => InvoiceLine.amountAgrees_iff.1 (hv.amounts l hl)
    · intro number hn
      obtain ⟨po, hp, hnum, hpo⟩ := hv.order number hn
      exact ⟨po, hp, hnum, hpo.poNumber, hpo.lineNums_nodup⟩
  · intro hw
    refine ⟨hw.lines.invoiceId, hw.lines.lineNums_nodup, ?_, ?_⟩
    · exact fun l hl => InvoiceLine.amountAgrees_iff.2 (hw.lines.amounts l hl)
    · intro number hn
      obtain ⟨po, hp, hnum, hpo⟩ := hw.order number hn
      exact ⟨po, hp, hnum, hpo.poNumber, hpo.lineNums_nodup⟩

theorem validate_eq_error_iff : s.validate = .error err ↔ s.FirstFault err := by
  have herror : s.validate = .error err ↔ s.error? = some err := by
    unfold validate
    cases s.error? <;> simp
  rw [herror]
  unfold error?
  constructor
  · intro herr
    split at herr
    · rename_i e hline
      obtain rfl := Option.some.inj herr
      obtain ⟨before, l, after, hsplit, hbefore, hfault⟩ := linesError?_eq_some_iff.1 hline
      exact .line hsplit hbefore hfault
    · rename_i hnone
      exact .order (linesError?_eq_none_iff_soundLines.1 hnone) (orderError?_eq_some_iff.1 herr)
  · rintro (⟨hsplit, hbefore, hfault⟩ | ⟨hlines, hfault⟩)
    · rw [linesError?_eq_some_iff.2 ⟨_, _, _, hsplit, hbefore, hfault⟩]
    · rw [linesError?_eq_none_iff_soundLines.2 hlines]
      exact orderError?_eq_some_iff.2 hfault

/-- **Validation is exact.**  It accepts just the well-formed snapshots, and refuses every other one
with its first fault. -/
theorem validate_iff (s : Snapshot) :
    (s.validate = .ok () ↔ s.WellFormed) ∧
      ∀ err, s.validate = .error err ↔ s.FirstFault err := by
  refine ⟨?_, fun err => validate_eq_error_iff⟩
  rw [validate_eq_ok_iff, error?_eq_none_iff, valid_iff_wellFormed]

end Snapshot
end Payables
