import Payables.Proofs.Evaluation.Errors
import Payables.Proofs.Evaluation.Autopilot
import Payables.Proofs.Matching.Mirrored
import Payables.Proofs.Matching.RoundedPercent

/-!
# What the writing of decimals can change

Decimals are compared and added by value, but percentages and large amounts are converted to
binary64 from the digits as they are written, and the conversion loses a little that depends on
them.

* `matchLines_eq`, `recorded_eq`, `decide_eq` — every stage of an evaluation, for two snapshots that
  differ in the writing of decimals only.
* `evaluate_eq_of_sameValues` — the two evaluations are equal where no percentage lies next to the
  middle between two hundredths, and no amount next to the limit.
* `evaluate_trailing_zero` — at such a middle a trailing zero decides between posting and review.
-/

namespace Payables

open Binary64

/-! ## Large amounts -/

/-- A plain amount that is no closer to a limit than one part in `10 ^ 12` of itself. -/
structure ClearAmount (limit : Binary64) (d : Decimal) : Prop where
  plain : d.Plain
  clear : d.value ≠ 0 → limit.isFinite = true →
    |d.value| / 10 ^ 12 < |limit.value - (|d.value|)|

/-- Such an amount is compared with the limit as if it were converted without loss. -/
theorem ClearAmount.le_toBinary64 {limit : Binary64} {d : Decimal} (h : ClearAmount limit d) :
    limit.le d.abs.toBinary64 = limit.le (finite false |d.value|) := by
  obtain ⟨v, hv, hdist⟩ := h.plain.toBinary64_abs
  rw [Decimal.value_abs] at hdist
  rw [hv]
  cases limit with
  | nan => rfl
  | infinite s => rfl
  | finite s m =>
    rw [Bool.eq_iff_iff, le_finite, le_finite]
    show _ ≤ v ↔ _ ≤ |d.value|
    rcases eq_or_ne d.value 0 with hzero | hne
    · have hv0 : v = 0 := by simpa [hzero] using hdist
      rw [hv0, hzero, abs_zero]
    · -- the amount and what it is converted to lie on one side of the limit
      have hclear := hdist.trans_lt (h.clear hne rfl)
      generalize (finite s m).value = x at *
      generalize |d.value| = a at *
      obtain ⟨hbelow, habove⟩ := abs_lt.1 hclear
      rcases le_or_gt x a with hle | hlt
      · rw [abs_of_nonpos (sub_nonpos.2 hle)] at hbelow
        exact iff_of_true (by linarith) hle
      · rw [abs_of_pos (sub_pos.2 hlt)] at habove
        exact iff_of_false (by linarith) (not_le.2 hlt)

/-! ## The stages -/

namespace Snapshot

variable {R : InvoiceLine → InvoiceLine → Prop} {Q : PurchaseOrderLine → PurchaseOrderLine → Prop}
  {s s' : Snapshot} {p : GuardrailPolicy} {t : Threshold}

theorem matchLines_eq (hf : Faithful R Q) (h : s.SameValues s')
    (hlines : List.Forall₂ R s.lines s'.lines)
    (horder : Option.Rel (OrderMirrors Q) s.purchaseOrder s'.purchaseOrder) :
    s.matchLines = s'.matchLines := by
  have hunplanned : s.unplannedOutcomes [] = s'.unplannedOutcomes [] :=
    congrArg Except.ok (map_eq_of_related hlines fun _ _ _ => rfl)
  unfold matchLines matchWithPrior
  rw [h.header, hunplanned]
  generalize s.purchaseOrder = po? at *
  generalize s'.purchaseOrder = po?' at *
  cases horder with
  | none =>
    cases s'.header.poNumber with
    | none => rfl
    | some number => rfl
  | some hpo =>
    -- the boards are dealt alike and stay side by side to the end
    have hplayed := Board.Mirrors.play hf (Board.mirrors_ofOrder hf hpo.lines h.receipts) hlines
    have houtcomes := map_eq_of_related hlines fun l l' hl =>
      hplayed.outcome_eq (hf.invoiceLine hl).lineNum
    cases s'.header.poNumber with
    | none => rfl
    | some number => exact congrArg Except.ok houtcomes

/-- The same rules fire on a line. -/
theorem recorded_eq (h : s.SameValues s') {l l' : InvoiceLine} (hl : l.SameValues l')
    {r : MatchResult}
    (hcost : r.status = .unplanned ∨ r.varianceKind = .unplannedCost →
      p.limits.largeUnplannedAmount.le l.amount.abs.toBinary64 =
        p.limits.largeUnplannedAmount.le l'.amount.abs.toBinary64) :
    s.recorded p l r = s'.recorded p l' r := by
  have hfires : ∀ g : Guardrail,
      g.fires p.limits s.context l r = g.fires p.limits s'.context l' r := by
    intro g
    cases g with
    | duplicatePosting => exact h.isDuplicate_eq
    | vendorPaymentBlock => exact congrArg Vendor.paymentBlock h.vendor
    | invoicePredatesPo => exact h.predatesOrder_eq
    | priceVariance => rfl
    | quantityVariance => rfl
    | partialReceipt => exact h.exceedsReceipt_eq hl r
    | vendorReliabilityWatch => exact congrArg (Guardrail.belowWatch p.limits) h.vendor
    | largeUnplannedCost =>
      -- the amount of a line is converted only where the line is unplanned
      simp only [Guardrail.fires]
      by_cases hunplanned : r.status = .unplanned ∨ r.varianceKind = .unplannedCost
      · rw [hcost hunplanned]
      · have hnone : (r.status == .unplanned || r.varianceKind == .unplannedCost) = false := by
          simpa using hunplanned
        rw [hnone, Bool.false_and, Bool.false_and]
  unfold recorded GuardrailPolicy.triggered GuardrailPolicy.firing
  simp only [hfires]

/-- A decision looks at the header, and at the purchase order for its line numbers. -/
theorem decide_eq (h : s.SameValues s') (rs : List MatchResult) :
    s.decide rs p t = s'.decide rs p t := by
  have hknows : ∀ ref, s.knowsLine ref = s'.knowsLine ref := by
    intro ref
    unfold knowsLine
    rcases h.order_cases with ⟨hs, hs'⟩ | ⟨po, po', hs, hs', hpo⟩
    · rw [hs, hs']
    · have hsome : (po.line? ref.lineNum).isSome = (po'.line? ref.lineNum).isSome := by
        rw [PurchaseOrder.line?, PurchaseOrder.line?, List.isSome_find?, List.isSome_find?]
        exact any_eq_of_related hpo.lines fun q q' hq => by rw [hq.lineNum]
      rw [hs, hs']
      simp only [hpo.poNumber, hsome]
  have hrefs : ∀ rs, s.checkReferences rs = s'.checkReferences rs := by
    intro rs
    induction rs with
    | nil => rfl
    | cons r rest ih => simp only [checkReferences, hknows, ih]
  unfold decide
  rw [hrefs, h.header]

/-- Only on an invoice without an order are lines scored as unplanned. -/
theorem unordered_of_scored (hv : s.Valid) {os : List LineOutcome} {scored : List MatchResult}
    (hos : s.matchLines = .ok os)
    (hscored : scoreLines s.purchaseOrder (s.lines.zip os) = .ok scored) {r : MatchResult}
    (hr : r ∈ scored)
    (hcost : r.status = .unplanned ∨ r.varianceKind = .unplannedCost) :
    s.header.poNumber = none := by
  obtain ⟨⟨l, o⟩, hx, hscore⟩ := exists_of_related (scoreLines_eq_ok_iff.1 hscored) hr
  obtain ⟨i, hi⟩ := List.getElem?_of_mem (List.of_mem_zip hx).2
  exact (outcome_unplanned_iff hv hos hi).1 (InvoiceLine.unplanned_of_score hscore hcost)

/-- **Valid snapshots with the same values are evaluated alike**, as long as the percentages agree
and, on an invoice without an order, the large amounts. -/
theorem evaluate_eq_of_faithful (hv : s.Valid) (hf : Faithful R Q) (h : s.SameValues s')
    (hlines : List.Forall₂ R s.lines s'.lines)
    (horder : Option.Rel (OrderMirrors Q) s.purchaseOrder s'.purchaseOrder)
    (hcost : s.header.poNumber = none → ∀ l l', R l l' →
      p.limits.largeUnplannedAmount.le l.amount.abs.toBinary64 =
        p.limits.largeUnplannedAmount.le l'.amount.abs.toBinary64) :
    s.evaluate p t = s'.evaluate p t := by
  obtain ⟨os, hos⟩ := exists_matchLines hv
  obtain ⟨scored, hscored⟩ := exists_scored hv hos
  have hos' : s'.matchLines = .ok os := (matchLines_eq hf h hlines horder).symm.trans hos
  have hscored' : scoreLines s'.purchaseOrder (s'.lines.zip os) = .ok scored :=
    (scoreLines_eq hf horder hlines os).symm.trans hscored
  have hrecorded : List.zipWith (s.recorded p) s.lines scored =
      List.zipWith (s'.recorded p) s'.lines scored :=
    zipWith_eq_of_related hlines fun l l' hl r hr =>
      recorded_eq h (hf.invoiceLine hl) fun hunplanned =>
        hcost (unordered_of_scored hv hos hscored hr hunplanned) l l' hl
  rw [evaluate_eq_of_valid hv hos hscored, evaluate_eq_of_valid (h.valid_iff.1 hv) hos' hscored',
    hrecorded, decide_eq h]

/-! ## Numbers that are clear of the thresholds -/

/-- No percentage that is measured lies next to the middle between two hundredths, and no amount
that is tested next to the limit. -/
structure Clear (s : Snapshot) (p : GuardrailPolicy) : Prop where
  prices : ∀ l ∈ s.lines, ∀ po, s.purchaseOrder = some po → ∀ q ∈ po.lines,
    ClearPercent l.unitPrice q.unitPrice
  quantities : ∀ l ∈ s.lines, ∀ po, s.purchaseOrder = some po → ∀ q ∈ po.lines,
    ClearPercent l.quantity q.quantity
  amounts : s.header.poNumber = none → ∀ l ∈ s.lines,
    ClearAmount p.limits.largeUnplannedAmount l.amount

/-- Lines of two invoices with the same values. -/
def LinesMirror (s s' : Snapshot) (l l' : InvoiceLine) : Prop :=
  l.SameValues l' ∧ l ∈ s.lines ∧ l' ∈ s'.lines

/-- Lines of two purchase orders with the same values. -/
def OrderLinesMirror (s s' : Snapshot) (q q' : PurchaseOrderLine) : Prop :=
  q.SameValues q' ∧ (∃ po, s.purchaseOrder = some po ∧ q ∈ po.lines) ∧
    ∃ po, s'.purchaseOrder = some po ∧ q' ∈ po.lines

theorem Clear.faithful (hs : s.Clear p) (hs' : s'.Clear p) :
    Faithful (s.LinesMirror s') (s.OrderLinesMirror s') where
  invoiceLine h := h.1
  orderLine h := h.1
  price := by
    rintro l l' q q' ⟨hl, hmem, hmem'⟩ ⟨hq, ⟨po, hpo, hqmem⟩, po', hpo', hqmem'⟩
    exact percentChange_congr (hs.prices l hmem po hpo q hqmem)
      (hs'.prices l' hmem' po' hpo' q' hqmem') hl.unitPrice hq.unitPrice
  quantity := by
    rintro l l' q q' ⟨hl, hmem, hmem'⟩ ⟨hq, ⟨po, hpo, hqmem⟩, po', hpo', hqmem'⟩
    exact percentChange_congr (hs.quantities l hmem po hpo q hqmem)
      (hs'.quantities l' hmem' po' hpo' q' hqmem') hl.quantity hq.quantity

theorem SameValues.orderMirrors (h : s.SameValues s') :
    Option.Rel (OrderMirrors (s.OrderLinesMirror s')) s.purchaseOrder s'.purchaseOrder := by
  rcases h.order_cases with ⟨hs, hs'⟩ | ⟨po, po', hs, hs', hpo⟩
  · rw [hs, hs']
    exact Option.Rel.none
  · have hlines : List.Forall₂ (s.OrderLinesMirror s') po.lines po'.lines :=
      (related_mem hpo.lines).imp fun q q' hq => ⟨hq.1, ⟨po, hs, hq.2.1⟩, po', hs', hq.2.2⟩
    rw [hs, hs']
    exact Option.Rel.some ⟨hpo.poNumber, hlines⟩

/-- **Evaluations depend on the values of the decimals only**, where no percentage and no amount
lies next to a threshold: two snapshots that are equal up to the writing of their decimals both
fail, or are both evaluated, and then alike. -/
theorem evaluate_eq_of_sameValues (h : s.SameValues s') (hs : s.Clear p) (hs' : s'.Clear p) :
    (s.evaluate p t).toOption = (s'.evaluate p t).toOption := by
  by_cases hv : s.Valid
  · refine congrArg Except.toOption
      (evaluate_eq_of_faithful hv (hs.faithful hs') h (related_mem h.lines) h.orderMirrors ?_)
    rintro hnone l l' ⟨hl, hmem, hmem'⟩
    have hnone' : s'.header.poNumber = none := h.header ▸ hnone
    rw [(hs.amounts hnone l hmem).le_toBinary64, (hs'.amounts hnone' l' hmem').le_toBinary64,
      hl.amount]
  · have hfails : ∀ {x : Snapshot}, ¬x.Valid → (x.evaluate p t).toOption = none := by
      intro x hx
      cases he : x.evaluate p t with
      | error e => rfl
      | ok e => exact absurd (exists_outcomes he).1 hx
    rw [hfails hv, hfails fun hv' => hv (h.valid_iff.2 hv')]

/-! ## The line of paper, written differently -/

theorem paper_sameValues {u u' a a' : Decimal} (hu : u.value = u'.value) (ha : a.value = a'.value) :
    (paper u a).SameValues (paper u' a') where
  header := rfl
  lines := List.Forall₂.cons ⟨rfl, hu, ha, rfl⟩ List.Forall₂.nil
  purchaseOrder := Option.Rel.some ⟨rfl, List.Forall₂.cons ⟨rfl, rfl, rfl⟩ List.Forall₂.nil⟩
  receipts := List.Forall₂.nil
  vendor := rfl
  posted := List.Forall₂.nil

theorem paper_clear {u a : Decimal} (hu : ClearPercent u (Decimal.ofInt 1)) :
    (paper u a).Clear p where
  prices := by
    intro l hl po hpo q hq
    cases hpo
    obtain rfl := List.mem_singleton.1 hl
    obtain rfl := List.mem_singleton.1 hq
    exact hu
  quantities := by
    intro l hl po hpo q hq
    cases hpo
    obtain rfl := List.mem_singleton.1 hl
    obtain rfl := List.mem_singleton.1 hq
    have hone : (Decimal.ofInt 1).Plain := ⟨by decide, by decide, by decide⟩
    have hzero : exactPercent (Decimal.ofInt 1) (Decimal.ofInt 1) = 0 := by simp [exactPercent]
    show ClearPercent (Decimal.ofInt 1) (Decimal.ofInt 1)
    exact ClearPercent.of_hundredths hone hone (n := 0) (by simp [hzero]) (by simp [hzero])
  amounts := nofun

set_option maxRecDepth 4000 in
/-- A price of 1.01 may be written with a third place, and the amount with four. -/
theorem paper_more_places :
    (paper ⟨101, 2⟩ ⟨101, 2⟩).SameValues (paper ⟨1010, 3⟩ ⟨10100, 4⟩) ∧
      (paper ⟨101, 2⟩ ⟨101, 2⟩).Clear .default ∧ (paper ⟨1010, 3⟩ ⟨10100, 4⟩).Clear .default ∧
      ∃ e, ((paper ⟨101, 2⟩ ⟨101, 2⟩).evaluate .default .default).toOption = some e ∧
        ((paper ⟨1010, 3⟩ ⟨10100, 4⟩).evaluate .default .default).toOption = some e := by
  have hclear : ∀ {u : Decimal}, u.Plain → u.value = 101 / 100 →
      ClearPercent u (Decimal.ofInt 1) := by
    intro u hu hvalue
    have hone : (Decimal.ofInt 1).Plain := ⟨by decide, by decide, by decide⟩
    have hpercent : exactPercent u (Decimal.ofInt 1) = 1 := by
      rw [exactPercent, hvalue, Decimal.value_ofInt]
      norm_num
    exact ClearPercent.of_hundredths hu hone (n := 100) (by norm_num [hpercent])
      (by norm_num [hpercent])
  have hshort : (⟨101, 2⟩ : Decimal).value = 101 / 100 := by norm_num [Decimal.value]
  have hlong : (⟨1010, 3⟩ : Decimal).value = 101 / 100 := by norm_num [Decimal.value]
  have hamount : (⟨10100, 4⟩ : Decimal).value = 101 / 100 := by norm_num [Decimal.value]
  have hsame := paper_sameValues (hshort.trans hlong.symm) (hshort.trans hamount.symm)
  have hs := paper_clear (a := ⟨101, 2⟩) (p := .default)
    (hclear ⟨by decide, by decide, by decide⟩ hshort)
  have hs' := paper_clear (a := ⟨10100, 4⟩) (p := .default)
    (hclear ⟨by decide, by decide, by decide⟩ hlong)
  have hsome : ((paper ⟨101, 2⟩ ⟨101, 2⟩).evaluate .default .default).toOption.isSome = true := by
    decide +kernel
  obtain ⟨e, he⟩ := Option.isSome_iff_exists.1 hsome
  exact ⟨hsame, hs, hs', e, he, (evaluate_eq_of_sameValues hsame hs hs').symm.trans he⟩

set_option maxRecDepth 4000 in
/-- **A trailing zero decides.**  A price of 1.00545, which is 0.545 percent more than was ordered,
is sent to review; written with one place more it posts. -/
theorem evaluate_trailing_zero :
    (paper ⟨100545, 5⟩ ⟨101, 2⟩).SameValues (paper ⟨1005450, 6⟩ ⟨101, 2⟩) ∧
      firstEligibility ((paper ⟨100545, 5⟩ ⟨101, 2⟩).evaluate .default .default) =
        some .manualReview ∧
      firstEligibility ((paper ⟨1005450, 6⟩ ⟨101, 2⟩).evaluate .default .default) =
        some .autopilot := by
  refine ⟨paper_sameValues ?_ rfl, ?_, ?_⟩
  · norm_num [Decimal.value]
  · decide +kernel
  · decide +kernel

end Snapshot
end Payables
