import Payables.Proofs.Decision.Line
import Payables.Proofs.Evaluation.Stages
import Payables.Proofs.Matching.PercentChange
import Payables.Proofs.Matching.Variance

/-!
# What posts automatically

A line is posted without review only with a confidence of 85 or more, so its variance has taken at
most fifteen points and was measured below 1.55 percent.

* `autopilot_within_two_percent` — quantity and price of a posted line are within two percent of
  the purchase order line that it is matched to, in exact rational arithmetic, exactly where the
  exponents of their quotients are kept; for the price this holds as long as its change is a
  number.
* `autopilot_price_half_more` — that proviso is needed: a price written with so many places that
  its change is NaN posts although it is half as high again as the ordered one.
-/

namespace Payables

open Binary64

/-! ## The measured percentages of a posted line -/

/-- A confidence of 85 leaves at most fifteen points to the penalty. -/
theorem Variance.magnitude_lt_of_confidence {raw : UInt8} {pct : Binary64}
    (hraw : raw ≤ 100) (hconf : 85 ≤ Variance.confidence raw pct) (hfin : pct.isFinite = true) :
    ∃ s m, pct = finite s m ∧ m < 199 / 128 := by
  cases pct with
  | nan => cases hfin
  | infinite s => cases hfin
  | finite s m =>
    refine ⟨s, m, rfl, magnitude_lt_of_penalty (s := s) ?_⟩
    rw [UInt8.le_iff_toNat_le] at hraw hconf
    rw [Variance.confidence, toNat_less] at hconf
    have h85 : (85 : UInt8).toNat = 85 := rfl
    have h100 : (100 : UInt8).toNat = 100 := rfl
    omega

namespace Snapshot

variable {s : Snapshot} {p : GuardrailPolicy} {t : Threshold} {e : Evaluation}

/-- A posted line is assigned to a line of the purchase order. -/
theorem LineEvaluated.exists_assigned {l : InvoiceLine} {o : LineOutcome}
    {scored r : MatchResult} {d : Decision} (h : s.LineEvaluated p t l o scored r d)
    (hd : d.eligibility = .autopilot) :
    ∃ a po q, o = .assigned a ∧ s.purchaseOrder = some po ∧ q ∈ po.lines ∧
      scored = l.assignedResult a po q := by
  obtain ⟨tr, -, rfl⟩ := h.decision
  obtain ⟨-, -, -, -, hstatus⟩ := MatchResult.decideWith_eligibility_eq_autopilot_iff.1 hd
  have hres : scored.status.isResolved = true := by
    rw [h.result] at hstatus
    rcases hstatus with hs | hs <;> simp only at hs <;> rw [hs] <;> rfl
  obtain ⟨a, po, q, ho, hpo, hq, hscored⟩ := InvoiceLine.score_eq_ok_of_resolved h.score hres
  exact ⟨a, po, q, ho, hpo, (PurchaseOrder.mem_of_line?_eq_some hq).1, hscored⟩

/-- A posted line is assigned to a line of the purchase order, with a variance below 1.55. -/
theorem LineEvaluated.exists_variance_lt {l : InvoiceLine} {o : LineOutcome}
    {scored r : MatchResult} {d : Decision} (h : s.LineEvaluated p t l o scored r d)
    (hd : d.eligibility = .autopilot) :
    ∃ po q, s.purchaseOrder = some po ∧ q ∈ po.lines ∧ r.poLine = some (po.lineRef q.lineNum) ∧
      ∃ sign m, (Variance.measure l q).pct = finite sign m ∧ m < 199 / 128 := by
  obtain ⟨a, po, q, -, hpo, hq, hscored⟩ := h.exists_assigned hd
  obtain ⟨tr, -, rfl⟩ := h.decision
  obtain ⟨-, -, h85, -, -⟩ := MatchResult.decideWith_eligibility_eq_autopilot_iff.1 hd
  have hcons := h.consistent
  rw [h.result, hscored] at hcons h85
  refine ⟨po, q, hpo, hq, ?_, ?_⟩
  · rw [h.result, hscored]
    rfl
  · exact Variance.magnitude_lt_of_confidence hcons.raw_le h85 hcons.isFinite

/-- **Posted lines are within two percent.**  For a line that posts automatically, quantity and
price lie within two percent of the ordered ones, in exact rational arithmetic, exactly where the
exponent of their quotient is not lost.  For the price this is so as long as its change is a
number; a price whose change is NaN has not been looked at. -/
theorem autopilot_within_two_percent (h : s.evaluate p t = .ok e) {i : ℕ} {l : InvoiceLine}
    {d : Decision} (hl : s.lines[i]? = some l) (hd : e.decisions[i]? = some d)
    (hauto : d.eligibility = .autopilot) :
    ∃ po q r, s.purchaseOrder = some po ∧ q ∈ po.lines ∧ e.results[i]? = some r ∧
      r.poLine = some (po.lineRef q.lineNum) ∧
      (|l.quantity.value - q.quantity.value| ≤ 2 / 100 * |q.quantity.value|
        ↔ ¬ExponentLost l.quantity q.quantity) ∧
      ((percentChange l.unitPrice q.unitPrice).isNaN = false →
        (|l.unitPrice.value - q.unitPrice.value| ≤ 2 / 100 * |q.unitPrice.value|
          ↔ ¬ExponentLost l.unitPrice q.unitPrice)) ∧
      ((percentChange l.unitPrice q.unitPrice).isNaN = true →
        Variance.measure l q = ⟨.quantity, percentChange l.quantity q.quantity⟩) := by
  obtain ⟨-, os, hos⟩ := exists_outcomes h
  obtain ⟨o, scored, r, d', -, hr, hd', hline⟩ := evaluateWithPrior_line h hos hl
  obtain rfl : d' = d := Option.some.inj (hd'.symm.trans hd)
  obtain ⟨po, q, hpo, hq, href, sign, m, hpct, hm⟩ := hline.exists_variance_lt hauto
  refine ⟨po, q, r, hpo, hq, hr, href, ?_, ?_, Variance.measure_of_price_isNaN⟩
  · obtain ⟨_, n, hquantity, hn⟩ := Variance.quantity_lt_of_measure (by norm_num) hpct hm
    exact abs_sub_le_iff_of_percentChange hquantity hn
  · intro hnum
    obtain ⟨_, n, hprice, hn⟩ := Variance.price_lt_of_measure (by norm_num) hpct hm hnum
    exact abs_sub_le_iff_of_percentChange hprice hn

/-! ## One line of paper

An invoice of one line, billed at a given price, for an order of one piece at the price of one. -/

/-- The line that is ordered. -/
def paperOrdered : PurchaseOrderLine :=
  ⟨"P-1", 1, "paper", Decimal.ofInt 1, Decimal.ofInt 1, none, none⟩

/-- The line that is billed. -/
def paperBilled (unitPrice amount : Decimal) : InvoiceLine where
  invoiceId := "I-1"
  lineNum := 1
  description := "paper"
  quantity := Decimal.ofInt 1
  unit := "EA"
  unitPrice := unitPrice
  amount := amount
  poLineRef := some 1
  receiptRef := none
  materialCode := none

/-- The invoice with its order. -/
def paper (unitPrice amount : Decimal) : Snapshot where
  header := ⟨"I-1", "V-1", "R-1", ⟨2024, 1, 2⟩, some "P-1", "USD"⟩
  lines := [paperBilled unitPrice amount]
  purchaseOrder := some
    { poNumber := "P-1", vendorId := "V-1", created := ⟨2024, 1, 1⟩, lines := [paperOrdered] }

/-- What becomes of the line of a snapshot of one. -/
def firstEligibility (r : Except EvaluationError Evaluation) : Option Eligibility :=
  r.toOption.bind fun e => e.decisions[0]?.map Decision.eligibility

theorem firstEligibility_eq_some_iff {r : Except EvaluationError Evaluation} {x : Eligibility} :
    firstEligibility r = some x ↔
      ∃ e d, r = .ok e ∧ e.decisions[0]? = some d ∧ d.eligibility = x := by
  cases r <;> simp [firstEligibility, Except.toOption]

set_option maxRecDepth 4000 in
/-- A price of 1.01 posts at a threshold of ninety, and lies within two percent of one. -/
theorem autopilot_one_percent_more :
    ∃ e d q r, (paper ⟨101, 2⟩ ⟨101, 2⟩).evaluate .default ⟨90, by decide, by decide⟩ = .ok e ∧
      e.decisions[0]? = some d ∧ d.eligibility = .autopilot ∧ e.results[0]? = some r ∧
      r.poLine = some ⟨"P-1", q.lineNum⟩ ∧ q = paperOrdered ∧
      |(⟨101, 2⟩ : Decimal).value - q.unitPrice.value| ≤ 2 / 100 * |q.unitPrice.value| := by
  have hauto : firstEligibility
      ((paper ⟨101, 2⟩ ⟨101, 2⟩).evaluate .default ⟨90, by decide, by decide⟩)
        = some .autopilot := by decide +kernel
  obtain ⟨e, d, he, hd, hd'⟩ := firstEligibility_eq_some_iff.1 hauto
  obtain ⟨po, q, r, hpo, hq, hr, href, -, hprice, -⟩ :=
    autopilot_within_two_percent (i := 0) he rfl hd hd'
  cases hpo
  obtain rfl := List.mem_singleton.1 hq
  refine ⟨e, d, paperOrdered, r, he, hd, hd', hr, href, rfl, (hprice ?_).2 ?_⟩
  · decide +kernel
  · rintro ⟨-, -, hlost⟩
    revert hlost
    decide +kernel

set_option maxRecDepth 4000 in
/-- A price of 1.5, written with 320 places, posts although one is the only price that was
ordered. -/
theorem autopilot_price_half_more :
    ∃ e d, (paper ⟨15 * 10 ^ 319, 320⟩ ⟨15, 1⟩).evaluate .default .default = .ok e ∧
      e.decisions[0]? = some d ∧ d.eligibility = .autopilot ∧
      ∀ po q, (paper ⟨15 * 10 ^ 319, 320⟩ ⟨15, 1⟩).purchaseOrder = some po → q ∈ po.lines →
        2 / 100 * |q.unitPrice.value|
          < |(⟨15 * 10 ^ 319, 320⟩ : Decimal).value - q.unitPrice.value| := by
  have hauto : firstEligibility
      ((paper ⟨15 * 10 ^ 319, 320⟩ ⟨15, 1⟩).evaluate .default .default) = some .autopilot := by
    decide +kernel
  obtain ⟨e, d, he, hd, hd'⟩ := firstEligibility_eq_some_iff.1 hauto
  refine ⟨e, d, he, hd, hd', ?_⟩
  intro po q hpo hq
  cases hpo
  obtain rfl := List.mem_singleton.1 hq
  have hprice : (⟨15 * 10 ^ 319, 320⟩ : Decimal).value = 3 / 2 := by
    calc (⟨15 * 10 ^ 319, 320⟩ : Decimal).value
        = 15 * ((10 : ℚ) ^ (319 : ℤ) * 10 ^ (-320 : ℤ)) := by
          rw [Decimal.value, Int.cast_mul, Int.cast_pow, mul_assoc]
          rfl
      _ = 3 / 2 := by
          rw [← zpow_add₀ (by norm_num)]
          norm_num
  have hone : paperOrdered.unitPrice.value = 1 := by
    norm_num [paperOrdered, Decimal.value, Decimal.ofInt]
  rw [hprice, hone]
  norm_num

end Snapshot
end Payables
