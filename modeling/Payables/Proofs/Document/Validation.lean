import Mathlib
import Payables.Document.Validation

/-!
# Valid snapshots

`Snapshot.Valid` says in one piece what validation asks for, and `error?_eq_none_iff` that it finds
no error exactly where it holds.  The scans over lines carry the numbers that came before: a list
passes where its numbers are distinct and avoid those.
-/

namespace Payables

/-- A chain of checks finds nothing where its first one passes and the others find nothing. -/
theorem check_eq_none_iff {ε : Type} {c : Prop} [Decidable c] {e : ε} {rest : Option ε} :
    (if c then some e else rest) = none ↔ ¬c ∧ rest = none := by
  by_cases h : c
  · simp [h]
  · simp [h]

/-- The numbers of a list are distinct and none of them has been seen. -/
def FreshNumbers {α : Type} (number : α → ℤ) (seen : List ℤ) (xs : List α) : Prop :=
  (xs.map number).Nodup ∧ ∀ x ∈ xs, number x ∉ seen

section Fresh

variable {α : Type} {number : α → ℤ} {seen : List ℤ} {x : α} {xs : List α}

@[simp] theorem freshNumbers_nil : FreshNumbers number seen [] := by
  simp [FreshNumbers]

theorem freshNumbers_cons :
    FreshNumbers number seen (x :: xs) ↔
      number x ∉ seen ∧ FreshNumbers number (number x :: seen) xs := by
  unfold FreshNumbers
  rw [List.map_cons, List.nodup_cons, List.forall_mem_cons]
  simp only [List.mem_map, List.mem_cons, not_or, not_exists, not_and, imp_and, forall_and]
  tauto

/-- Where nothing has been seen, the numbers are distinct. -/
theorem freshNumbers_empty : FreshNumbers number [] xs ↔ (xs.map number).Nodup := by
  simp [FreshNumbers]

/-- In whatever order the list stands. -/
theorem FreshNumbers.perm {ys : List α} (h : FreshNumbers number seen xs) (hperm : xs.Perm ys) :
    FreshNumbers number seen ys :=
  ⟨(hperm.map number).nodup_iff.1 h.1, fun y hy => h.2 y (hperm.mem_iff.2 hy)⟩

end Fresh

/-- A purchase order whose lines are its own and have distinct numbers. -/
structure PurchaseOrder.Valid (po : PurchaseOrder) : Prop where
  poNumber : ∀ p ∈ po.lines, p.poNumber = po.poNumber
  lineNums_nodup : (po.lines.map PurchaseOrderLine.lineNum).Nodup

namespace Snapshot

/-- A snapshot that agrees with itself: the lines belong to the invoice, are numbered apart and
have the amounts they should, and the purchase order that is named is there. -/
structure Valid (s : Snapshot) : Prop where
  invoiceId : ∀ l ∈ s.lines, l.invoiceId = s.header.invoiceId
  lineNums_nodup : (s.lines.map InvoiceLine.lineNum).Nodup
  amounts : ∀ l ∈ s.lines, l.amountAgrees = true
  order : ∀ number, s.header.poNumber = some number →
    ∃ po, s.purchaseOrder = some po ∧ po.poNumber = number ∧ po.Valid

/-- The order that a valid snapshot has is the one that it names. -/
theorem Valid.supplied {s : Snapshot} (hv : s.Valid) {number : String} {po : PurchaseOrder}
    (hn : s.header.poNumber = some number) (hp : s.purchaseOrder = some po) :
    po.poNumber = number ∧ po.Valid := by
  obtain ⟨po', hp', hnum, hpo⟩ := hv.order number hn
  obtain rfl : po = po' := Option.some.inj (hp.symm.trans hp')
  exact ⟨hnum, hpo⟩

theorem lineError?_eq_none_iff {h : InvoiceHeader} {seen : List ℤ} {l : InvoiceLine} :
    lineError? h seen l = none ↔
      l.invoiceId = h.invoiceId ∧ l.lineNum ∉ seen ∧ l.amountAgrees = true := by
  unfold lineError?
  by_cases hid : l.invoiceId = h.invoiceId
  · by_cases hseen : l.lineNum ∈ seen
    · simp [hid, hseen]
    · simp [hid, hseen]
  · simp [hid]

theorem linesError?_eq_none_iff {h : InvoiceHeader} {seen : List ℤ} {ls : List InvoiceLine} :
    linesError? h seen ls = none ↔
      (∀ l ∈ ls, l.invoiceId = h.invoiceId) ∧ FreshNumbers InvoiceLine.lineNum seen ls ∧
        ∀ l ∈ ls, l.amountAgrees = true := by
  induction ls generalizing seen with
  | nil => simp [linesError?]
  | cons l rest ih =>
    have hcons : linesError? h seen (l :: rest) = none ↔
        lineError? h seen l = none ∧ linesError? h (l.lineNum :: seen) rest = none := by
      simp only [linesError?]
      cases lineError? h seen l <;> simp
    rw [hcons, lineError?_eq_none_iff, ih, freshNumbers_cons]
    simp only [List.forall_mem_cons]
    tauto

theorem orderLinesError?_eq_none_iff {h : InvoiceHeader} {po : PurchaseOrder} {seen : List ℤ}
    {ps : List PurchaseOrderLine} :
    orderLinesError? h po seen ps = none ↔
      (∀ p ∈ ps, p.poNumber = po.poNumber) ∧ FreshNumbers PurchaseOrderLine.lineNum seen ps := by
  induction ps generalizing seen with
  | nil => simp [orderLinesError?]
  | cons p rest ih =>
    have hcons : orderLinesError? h po seen (p :: rest) = none ↔
        p.poNumber = po.poNumber ∧ p.lineNum ∉ seen ∧
          orderLinesError? h po (p.lineNum :: seen) rest = none := by
      simp only [orderLinesError?]
      by_cases hpo : p.poNumber = po.poNumber
      · by_cases hseen : p.lineNum ∈ seen <;> simp [hpo, hseen]
      · simp [hpo]
    rw [hcons, ih, freshNumbers_cons, List.forall_mem_cons]
    tauto

theorem orderError?_eq_none_iff {s : Snapshot} :
    s.orderError? = none ↔ ∀ number, s.header.poNumber = some number →
      ∃ po, s.purchaseOrder = some po ∧ po.poNumber = number ∧ po.Valid := by
  unfold orderError?
  cases hn : s.header.poNumber with
  | none => simp
  | some number =>
    cases hp : s.purchaseOrder with
    | none => simp
    | some po =>
      by_cases hnum : number = po.poNumber
      · subst hnum
        simp only [ne_eq, not_true_eq_false, if_false, orderLinesError?_eq_none_iff,
          freshNumbers_empty, Option.some.injEq, forall_eq', exists_eq_left', true_and]
        exact ⟨fun h => ⟨h.1, h.2⟩, fun h => ⟨h.poNumber, h.lineNums_nodup⟩⟩
      · simp [hnum, Ne.symm hnum]

/-- **What validation accepts.** -/
theorem error?_eq_none_iff {s : Snapshot} : s.error? = none ↔ s.Valid := by
  have hsplit : s.error? = none ↔
      linesError? s.header [] s.lines = none ∧ s.orderError? = none := by
    unfold error?
    cases linesError? s.header [] s.lines <;> simp
  rw [hsplit, linesError?_eq_none_iff, orderError?_eq_none_iff, freshNumbers_empty]
  constructor
  · rintro ⟨⟨hid, hnodup, hamounts⟩, horder⟩
    exact ⟨hid, hnodup, hamounts, horder⟩
  · intro h
    exact ⟨⟨h.invoiceId, h.lineNums_nodup, h.amounts⟩, h.order⟩

theorem validate_eq_ok_iff {s : Snapshot} : s.validate = .ok () ↔ s.error? = none := by
  unfold validate
  cases s.error? <;> simp

end Snapshot
end Payables
