import Payables.Proofs.Evaluation.Errors

/-!
# Invoices without a purchase order

An invoice that names no purchase order has no order to be judged by, but its snapshot may come with
one, and with receipts.  Validation, matching and scoring leave them alone
(`validate_of_unordered`, `evaluate_of_unordered`), and so do all rules but one (`fires_unplanned`):
the rule of early invoices compares the date of the invoice with that of any order that is there.

* `evaluate_unordered` — what comes along is without effect exactly where that rule is not in force
  or gives the same answer, apart from invoices that are refused or empty.
* `evaluate_stray_order` — a later order blocks an invoice that does not name it.
-/

namespace Payables.Snapshot

variable {s : Snapshot} {p : GuardrailPolicy} {t : Threshold}

/-! ## One run -/

/-- The result of an unplanned line with the guardrails that fire on it. -/
def recordedUnplanned (s : Snapshot) (p : GuardrailPolicy) (l : InvoiceLine) : MatchResult :=
  s.recorded p l l.unplannedResult

theorem scoreLines_unplanned (po : Option PurchaseOrder) (ls : List InvoiceLine) :
    scoreLines po (ls.zip (ls.map fun _ => .unplanned)) =
      .ok (ls.map InvoiceLine.unplannedResult) := by
  rw [scoreLines_eq_ok_iff]
  induction ls with
  | nil => exact .nil
  | cons l ls ih => exact .cons rfl ih

/-- Every line of an unordered invoice is decided on as an unplanned one. -/
theorem evaluate_of_unordered (hn : s.header.poNumber = none) (hv : s.Valid) :
    s.evaluate p t = s.decide (s.lines.map (s.recordedUnplanned p)) p t := by
  rw [evaluate_eq_of_valid hv (matchLines_of_unordered hn) (scoreLines_unplanned _ _),
    List.zipWith_map_right, List.zipWith_self]
  rfl

/-- An unordered invoice is never refused once it is valid. -/
theorem exists_evaluate_of_unordered (hn : s.header.poNumber = none) (hv : s.Valid) :
    ∃ e, s.evaluate p t = .ok e := by
  rw [exists_evaluate_iff_of_valid hv (matchLines_of_unordered hn)]
  rintro ⟨l, o⟩ hx
  obtain ⟨_, -, rfl⟩ := List.mem_map.1 (List.of_mem_zip hx).2
  rfl

theorem results_of_unordered (hn : s.header.poNumber = none) {e : Evaluation}
    (h : s.evaluate p t = .ok e) : e.results = s.lines.map (s.recordedUnplanned p) := by
  rw [evaluate_of_unordered hn (exists_outcomes h).1] at h
  obtain ⟨-, ds, -, rfl⟩ := decide_eq_ok_iff.1 h
  rfl

/-! ## Two runs -/

section TwoRuns

variable {order : Option PurchaseOrder} {receipts : List GoodsReceipt}

/-- Validation does not look at an order that is not named. -/
theorem validate_of_unordered (hn : s.header.poNumber = none) :
    { s with purchaseOrder := order, receipts := receipts }.validate = s.validate := by
  simp only [validate, error?, orderError?, hn]

/-- Only the rule of early invoices looks at an order or at receipts on an unplanned line. -/
theorem fires_unplanned (limits : GuardrailLimits) (l : InvoiceLine) {g : Guardrail}
    (hg : g = .invoicePredatesPo →
      Guardrail.predatesOrder { s with purchaseOrder := order } = Guardrail.predatesOrder s) :
    g.fires limits { s with purchaseOrder := order, receipts := receipts }.context l
        l.unplannedResult =
      g.fires limits s.context l l.unplannedResult := by
  cases g with
  | invoicePredatesPo => exact hg rfl
  | duplicatePosting | vendorPaymentBlock | priceVariance | quantityVariance | partialReceipt
  | vendorReliabilityWatch | largeUnplannedCost => rfl

/-- The rule of early invoices is recorded on a line where it is in force and the order is later
than the invoice. -/
theorem invoicePredatesPo_mem_iff (l : InvoiceLine) :
    .invoicePredatesPo ∈ (s.recordedUnplanned p l).guardrails ↔
      (∃ x ∈ p.definitions, x.id = .invoicePredatesPo) ∧ Guardrail.predatesOrder s = true := by
  have hlists := GuardrailPolicy.all_lists p s.context l l.unplannedResult
  simp only [recordedUnplanned, recorded, hlists.mem_iff, GuardrailPolicy.firing, List.mem_filter]
  constructor
  · rintro ⟨x, ⟨hx, hfires⟩, hid⟩
    rw [hid] at hfires
    exact ⟨⟨x, hx, hid⟩, hfires⟩
  · rintro ⟨⟨x, hx, hid⟩, hlater⟩
    refine ⟨x, ⟨hx, ?_⟩, hid⟩
    rw [hid]
    exact hlater

/-- The same guardrails are recorded where the rule of early invoices is not in force or gives the
same answer. -/
theorem recordedUnplanned_eq
    (hsame : (∀ x ∈ p.definitions, x.id ≠ .invoicePredatesPo) ∨
      Guardrail.predatesOrder { s with purchaseOrder := order } = Guardrail.predatesOrder s) :
    { s with purchaseOrder := order, receipts := receipts }.recordedUnplanned p =
      s.recordedUnplanned p := by
  funext l
  have hfiring : p.firing { s with purchaseOrder := order, receipts := receipts }.context l
      l.unplannedResult = p.firing s.context l l.unplannedResult := by
    refine List.filter_congr fun x hx => fires_unplanned p.limits l fun hid => ?_
    rcases hsame with hnone | heq
    · exact absurd hid (hnone x hx)
    · exact heq
  simp only [recordedUnplanned, recorded, GuardrailPolicy.triggered, hfiring]

/-- Unplanned lines are decided on without an order. -/
theorem decide_unplanned_eq :
    { s with purchaseOrder := order, receipts := receipts }.decide
        (s.lines.map (s.recordedUnplanned p)) p t =
      s.decide (s.lines.map (s.recordedUnplanned p)) p t := by
  have hrefs : ∀ s' : Snapshot,
      s'.checkReferences (s.lines.map (s.recordedUnplanned p)) = .ok () := by
    intro s'
    rw [checkReferences_eq_ok_iff]
    rintro r hr ref href
    obtain ⟨l, -, rfl⟩ := List.mem_map.1 hr
    cases href
  simp only [decide, hrefs]

/-- A refused snapshot is refused with whatever comes along. -/
theorem evaluate_unordered_of_invalid (hn : s.header.poNumber = none)
    (hinvalid : s.validate ≠ .ok ()) :
    { s with purchaseOrder := order, receipts := receipts }.evaluate p t = s.evaluate p t := by
  cases hvalid : s.validate with
  | ok u => exact absurd hvalid hinvalid
  | error err =>
    rw [evaluate_of_invalid hvalid]
    exact evaluate_of_invalid ((validate_of_unordered hn).trans hvalid)

/-- The same results are the same evaluation. -/
theorem evaluate_unordered_of_valid (hn : s.header.poNumber = none) (hv : s.Valid)
    (hsame : s.lines.map
        ({ s with purchaseOrder := order, receipts := receipts }.recordedUnplanned p) =
      s.lines.map (s.recordedUnplanned p)) :
    { s with purchaseOrder := order, receipts := receipts }.evaluate p t = s.evaluate p t := by
  have hv' : { s with purchaseOrder := order, receipts := receipts }.Valid := by
    rw [← error?_eq_none_iff, ← validate_eq_ok_iff] at hv ⊢
    rwa [validate_of_unordered hn]
  calc { s with purchaseOrder := order, receipts := receipts }.evaluate p t
      = { s with purchaseOrder := order, receipts := receipts }.decide
          (s.lines.map (s.recordedUnplanned p)) p t := by
        rw [← hsame]
        exact evaluate_of_unordered hn hv'
    _ = s.decide (s.lines.map (s.recordedUnplanned p)) p t := decide_unplanned_eq
    _ = s.evaluate p t := (evaluate_of_unordered hn hv).symm

/-- Different answers to the rule of early invoices, where it is in force, are different
evaluations. -/
theorem predatesOrder_eq_of_evaluate_eq (hn : s.header.poNumber = none) (hv : s.Valid)
    (hlines : s.lines ≠ []) (hforce : ∃ x ∈ p.definitions, x.id = .invoicePredatesPo)
    (heq : { s with purchaseOrder := order, receipts := receipts }.evaluate p t =
      s.evaluate p t) :
    Guardrail.predatesOrder { s with purchaseOrder := order } = Guardrail.predatesOrder s := by
  obtain ⟨e, he⟩ := exists_evaluate_of_unordered (p := p) (t := t) hn hv
  obtain ⟨l, ls, hcons⟩ := List.exists_cons_of_ne_nil hlines
  -- the result of the first line tells the two evaluations apart
  have hresults : s.lines.map
      ({ s with purchaseOrder := order, receipts := receipts }.recordedUnplanned p) =
        s.lines.map (s.recordedUnplanned p) := by
    rw [← results_of_unordered hn he]
    exact (results_of_unordered
      (s := { s with purchaseOrder := order, receipts := receipts }) hn (heq.trans he)).symm
  rw [hcons, List.map_cons, List.map_cons, List.cons.injEq] at hresults
  have hmem := invoicePredatesPo_mem_iff (s := s) (p := p) l
  rw [← hresults.1, invoicePredatesPo_mem_iff] at hmem
  rw [Bool.eq_iff_iff]
  exact ⟨fun h => (hmem.1 ⟨hforce, h⟩).2, fun h => (hmem.2 ⟨hforce, h⟩).2⟩

end TwoRuns

/-- **What an unordered invoice is judged by.**  Every line of an invoice without an order number is
unplanned.  An order and receipts that come along with it change nothing exactly where the invoice
is refused or has no lines, the rule of early invoices is not in force, or the orders are on the
same side of the date of the invoice. -/
theorem evaluate_unordered (hn : s.header.poNumber = none) (order : Option PurchaseOrder)
    (receipts : List GoodsReceipt) (p : GuardrailPolicy) (t : Threshold) :
    ({ s with purchaseOrder := order, receipts := receipts }.evaluate p t = s.evaluate p t ↔
      s.validate ≠ .ok () ∨ s.lines = [] ∨ (∀ x ∈ p.definitions, x.id ≠ .invoicePredatesPo) ∨
        Guardrail.predatesOrder { s with purchaseOrder := order } = Guardrail.predatesOrder s) ∧
      ∀ e, s.evaluate p t = .ok e →
        ∀ r ∈ e.results, r.status = .unplanned ∧ r.poLine = none ∧ r.strategy = none := by
  refine ⟨⟨?_, ?_⟩, ?_⟩
  · intro heq
    by_contra hnone
    simp only [not_or, not_not] at hnone
    obtain ⟨hvalid, hlines, hforce, hdiffer⟩ := hnone
    push Not at hforce
    have hv := error?_eq_none_iff.1 (validate_eq_ok_iff.1 hvalid)
    exact hdiffer (predatesOrder_eq_of_evaluate_eq hn hv hlines hforce heq)
  · intro h
    by_cases hvalid : s.validate = .ok ()
    · refine evaluate_unordered_of_valid hn (error?_eq_none_iff.1 (validate_eq_ok_iff.1 hvalid)) ?_
      rcases h with hinvalid | hlines | hsame
      · exact absurd hvalid hinvalid
      · rw [hlines]
        rfl
      · rw [recordedUnplanned_eq hsame]
    · exact evaluate_unordered_of_invalid hn hvalid
  · intro e he r hr
    rw [results_of_unordered hn he] at hr
    obtain ⟨l, -, rfl⟩ := List.mem_map.1 hr
    exact ⟨rfl, rfl, rfl⟩

/-! ## An invoice for freight

One line that no order was written for, beside an order that somebody attached. -/

/-- The invoice. -/
def freight : Snapshot where
  header := ⟨"I-3", "V-1", "R-3", ⟨2024, 1, 2⟩, none, "USD"⟩
  lines := [
    { invoiceId := "I-3"
      lineNum := 1
      description := "freight"
      quantity := Decimal.ofInt 1
      unit := "EA"
      unitPrice := Decimal.ofInt 50
      amount := Decimal.ofInt 50
      poLineRef := none
      receiptRef := none
      materialCode := none }]

/-- The order, created on a day of January. -/
def attachedOrder (day : ℕ) : PurchaseOrder where
  poNumber := "P-3"
  vendorId := "V-1"
  created := ⟨2024, 1, day⟩
  lines := [⟨"P-3", 1, "freight", Decimal.ofInt 1, Decimal.ofInt 50, none, none⟩]

/-- A receipt for the order, of less than what is billed. -/
def attachedReceipt : GoodsReceipt := ⟨"G-3", 1, some 1, Decimal.ofInt 0, ⟨2024, 1, 1⟩⟩

/-- The invoice with the order and the receipt. -/
def attachedFreight (day : ℕ) : Snapshot :=
  { freight with purchaseOrder := some (attachedOrder day), receipts := [attachedReceipt] }

/-- An order that is no later than the invoice is without effect. -/
theorem attachedFreight_same_day :
    freight.header.poNumber = none ∧
      (attachedFreight 2).evaluate .default .default = freight.evaluate .default .default :=
  ⟨rfl, (evaluate_unordered rfl (some (attachedOrder 2)) [attachedReceipt] .default .default).1.2
    (Or.inr (Or.inr (Or.inr (by decide))))⟩

set_option maxRecDepth 4000 in
/-- **A later order blocks an invoice that does not name it**: alone the invoice is reviewed. -/
theorem evaluate_stray_order :
    ∃ e e', freight.evaluate .default .default = .ok e ∧
      (attachedFreight 3).evaluate .default .default = .ok e' ∧
      e.decision.eligibility = .manualReview ∧ e'.decision.eligibility = .blocked ∧
      e'.decision.forcedBy = [.invoicePredatesPo] := by
  have halone : (freight.evaluate .default .default).toOption.map
      (fun e => e.decision.eligibility) = some .manualReview := by
    decide +kernel
  have hattached : ((attachedFreight 3).evaluate .default .default).toOption.map
      (fun e => (e.decision.eligibility, e.decision.forcedBy)) =
        some (.blocked, [.invoicePredatesPo]) := by
    decide +kernel
  obtain ⟨e, he, hmanual⟩ := exists_ok_of_map_eq halone
  obtain ⟨e', he', hforced⟩ := exists_ok_of_map_eq hattached
  obtain ⟨hblocked, hby⟩ := Prod.mk.inj hforced
  exact ⟨e, e', he, he', hmanual, hblocked, hby⟩

end Payables.Snapshot
