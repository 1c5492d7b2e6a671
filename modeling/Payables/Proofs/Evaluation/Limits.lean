import Payables.Proofs.Evaluation.Autopilot
import Payables.Proofs.Evaluation.Policy

/-!
# What the variance limits promise

The usual rules have a limit for the deviation in price and another for that in quantity.  Only one
deviation is measured on a line, the larger one, so only the larger one is held against its limit.

* `GuardrailLimits.KeepsLarger` — the larger of two deviations is within the limit of its axis.  So
  an axis keeps its limit where that is neither negative nor the smaller one (`price_le`,
  `quantity_le`).
* `autopilot_within_limits` — this is so for every line that posts automatically.
* `posted_beyond_quantity_limit` — the smaller deviation may well be beyond its limit.
-/

namespace Payables

open Binary64

/-! ## The larger of two deviations -/

namespace GuardrailLimits

variable {limits : GuardrailLimits} {price quantity : Binary64}

/-- The larger of two deviations is within the limit of its axis; the price counts where they are
equal, and nothing is asked where both are zero. -/
def KeepsLarger (limits : GuardrailLimits) (price quantity : Binary64) : Prop :=
  (price.eqv Binary64.zero = true ∧ quantity.eqv Binary64.zero = true) ∨
    (quantity.abs.le price.abs = true ∧ price.abs.le limits.priceVariancePct = true) ∨
    (price.abs.lt quantity.abs = true ∧ quantity.abs.le limits.quantityVariancePct = true)

/-- The limit on the price holds where the one on the quantity is no larger. -/
theorem KeepsLarger.price_le (h : limits.KeepsLarger price quantity)
    (hzero : Binary64.zero.le limits.priceVariancePct = true)
    (hle : limits.quantityVariancePct.le limits.priceVariancePct = true) :
    price.abs.le limits.priceVariancePct = true := by
  rcases h with ⟨hprice, -⟩ | ⟨-, hprice⟩ | ⟨hlt, hquantity⟩
  · exact Variance.abs_le_of_eqv_zero hprice hzero
  · exact hprice
  · exact Binary64.le_trans (Binary64.le_of_lt hlt) (Binary64.le_trans hquantity hle)

/-- The limit on the quantity holds where the one on the price is no larger. -/
theorem KeepsLarger.quantity_le (h : limits.KeepsLarger price quantity)
    (hzero : Binary64.zero.le limits.quantityVariancePct = true)
    (hle : limits.priceVariancePct.le limits.quantityVariancePct = true) :
    quantity.abs.le limits.quantityVariancePct = true := by
  rcases h with ⟨-, hquantity⟩ | ⟨hlarger, hprice⟩ | ⟨-, hquantity⟩
  · exact Variance.abs_le_of_eqv_zero hquantity hzero
  · exact Binary64.le_trans hlarger (Binary64.le_trans hprice hle)
  · exact hquantity

end GuardrailLimits

/-! ## The usual rules -/

namespace GuardrailPolicy

variable {limits : GuardrailLimits} {ctx : InvoiceContext} {l : InvoiceLine} {r : MatchResult}

/-- The usual rules are defined once each. -/
theorem standard_nodup (limits : GuardrailLimits) :
    ((standard limits).definitions.map GuardrailDefinition.id).Nodup := by
  show Guardrail.all.Nodup
  decide

/-- Where only notes are left on a line, no variance rule has fired. -/
theorem not_fires_of_audit (h : ∀ x ∈ (standard limits).firing ctx l r, x.severity = .audit) :
    Guardrail.priceVariance.fires limits ctx l r = false ∧
      Guardrail.quantityVariance.fires limits ctx l r = false := by
  have hsoft : ∀ x ∈ (standard limits).definitions, x.severity = .soft →
      x.id.fires limits ctx l r = false := by
    intro x hx hs
    by_contra hfires
    have haudit := h x (List.mem_filter.2 ⟨hx, Bool.eq_true_of_not_eq_false hfires⟩)
    rw [hs] at haudit
    cases haudit
  constructor
  · have hdef : (standard limits).definitions[3]? = some ⟨.priceVariance, .soft, _⟩ := rfl
    exact hsoft _ (List.mem_of_getElem? hdef) rfl
  · have hdef : (standard limits).definitions[4]? = some ⟨.quantityVariance, .soft, _⟩ := rfl
    exact hsoft _ (List.mem_of_getElem? hdef) rfl

end GuardrailPolicy

/-- The variance of a line on which no variance rule fires keeps the larger limit, as long as the
change in price is a number. -/
theorem InvoiceLine.keepsLarger_of_not_fires {limits : GuardrailLimits} {ctx : InvoiceContext}
    {l : InvoiceLine} {a : Assignment} {po : PurchaseOrder} {q : PurchaseOrderLine}
    (hpriceLimit : limits.priceVariancePct.isNaN = false)
    (hquantityLimit : limits.quantityVariancePct.isNaN = false)
    (hfinite : (Variance.measure l q).pct.isFinite = true)
    (hprice : Guardrail.priceVariance.fires limits ctx l (l.assignedResult a po q) = false)
    (hquantity : Guardrail.quantityVariance.fires limits ctx l (l.assignedResult a po q) = false)
    (hnum : (percentChange l.unitPrice q.unitPrice).isNaN = false) :
    limits.KeepsLarger (percentChange l.unitPrice q.unitPrice)
      (percentChange l.quantity q.quantity) := by
  have habs : (percentChange l.unitPrice q.unitPrice).abs.isNaN = false := by rwa [abs_isNaN]
  simp only [Guardrail.fires, assignedResult] at hprice hquantity
  rcases Variance.measure_cases l q with ⟨hp, hq, -⟩ | ⟨hle, heq⟩ | ⟨hle, heq⟩
  · exact Or.inl ⟨hp, hq⟩
  · -- the price is measured, and its rule is silent
    rw [heq] at hprice
    exact Or.inr (Or.inl ⟨hle, le_of_lt_eq_false habs hpriceLimit hprice⟩)
  · -- the quantity is measured: it is a number, so it is the larger one
    rw [heq] at hquantity hfinite
    have habs' : (percentChange l.quantity q.quantity).abs.isNaN = false := by
      obtain ⟨s, m, hc⟩ := isFinite_iff.1 hfinite
      rw [show percentChange l.quantity q.quantity = finite s m from hc]
      rfl
    refine Or.inr (Or.inr ⟨?_, le_of_lt_eq_false habs' hquantityLimit hquantity⟩)
    by_contra hlt
    have hle' := le_of_lt_eq_false habs' habs (by simpa using hlt)
    rw [hle] at hle'
    cases hle'

namespace Snapshot

variable {s : Snapshot} {t : Threshold} {e : Evaluation} {limits : GuardrailLimits}

/-- **Posted lines keep the larger limit.**  Under the usual rules, the larger of the deviations of
a line that posts automatically is within the limit of its axis, as long as its change in price is
a number.  So an axis keeps its own limit wherever that is neither negative nor smaller than the
limit of the other one. -/
theorem autopilot_within_limits (hpriceLimit : limits.priceVariancePct.isNaN = false)
    (hquantityLimit : limits.quantityVariancePct.isNaN = false)
    (h : s.evaluate (.standard limits) t = .ok e) {i : ℕ} {l : InvoiceLine} {d : Decision}
    (hl : s.lines[i]? = some l) (hd : e.decisions[i]? = some d)
    (hauto : d.eligibility = .autopilot) :
    ∃ po q r, s.purchaseOrder = some po ∧ q ∈ po.lines ∧ e.results[i]? = some r ∧
      r.poLine = some (po.lineRef q.lineNum) ∧
      ((percentChange l.unitPrice q.unitPrice).isNaN = false →
        limits.KeepsLarger (percentChange l.unitPrice q.unitPrice)
            (percentChange l.quantity q.quantity) ∧
          (Binary64.zero.le limits.priceVariancePct = true →
            limits.quantityVariancePct.le limits.priceVariancePct = true →
            (percentChange l.unitPrice q.unitPrice).abs.le limits.priceVariancePct = true) ∧
          (Binary64.zero.le limits.quantityVariancePct = true →
            limits.priceVariancePct.le limits.quantityVariancePct = true →
            (percentChange l.quantity q.quantity).abs.le limits.quantityVariancePct = true)) := by
  obtain ⟨o, scored, r, hr, hline⟩ := exists_line_of_decision h hl hd
  obtain ⟨a, po, q, -, hpo, hq, rfl⟩ := hline.exists_assigned hauto
  have hdecided := hline.decidedBy (GuardrailPolicy.standard_nodup limits)
  have haudit := MatchResult.severity_eq_audit_of_declared (hdecided.eligibility.symm.trans hauto)
  obtain ⟨hprice, hquantity⟩ := GuardrailPolicy.not_fires_of_audit haudit
  have hfinite : (Variance.measure l q).pct.isFinite = true := by
    have hcons := hline.consistent.isFinite
    rw [hline.result] at hcons
    exact hcons
  refine ⟨po, q, r, hpo, hq, hr, ?_, ?_⟩
  · rw [hline.result]
    rfl
  · intro hnum
    have hkeeps := InvoiceLine.keepsLarger_of_not_fires hpriceLimit hquantityLimit hfinite hprice
      hquantity hnum
    exact ⟨hkeeps, hkeeps.price_le, hkeeps.quantity_le⟩

/-! ## A line that deviates in both -/

/-- The line of paper, billed at 1.004 and for 1.003 pieces. -/
def offPaper : Snapshot :=
  { paper ⟨1004, 3⟩ ⟨101, 2⟩ with
    lines := [{ paperBilled ⟨1004, 3⟩ ⟨101, 2⟩ with quantity := ⟨1003, 3⟩ }] }

set_option maxRecDepth 4000 in
/-- With the usual limits the line posts, and both of its deviations are within two percent. -/
theorem offPaper_within_limits :
    ∃ e d, offPaper.evaluate (.standard {}) .default = .ok e ∧ e.decisions[0]? = some d ∧
      d.eligibility = .autopilot ∧
      (percentChange ⟨1004, 3⟩ (Decimal.ofInt 1)).abs.le (Binary64.ofNat 2) = true ∧
      (percentChange ⟨1003, 3⟩ (Decimal.ofInt 1)).abs.le (Binary64.ofNat 2) = true := by
  have hauto : firstEligibility (offPaper.evaluate (.standard {}) .default) = some .autopilot := by
    decide +kernel
  obtain ⟨e, d, he, hd, hposted⟩ := firstEligibility_eq_some_iff.1 hauto
  have hnumber : (Binary64.ofNat 2).isNaN = false := ofInt_isNaN 2
  obtain ⟨po, q, r, hpo, hq, -, -, hwithin⟩ :=
    autopilot_within_limits (i := 0) hnumber hnumber he rfl hd hposted
  cases hpo
  obtain rfl := List.mem_singleton.1 hq
  obtain ⟨-, hprice, hquantity⟩ := hwithin (by decide +kernel)
  exact ⟨e, d, he, hd, hposted, hprice (by decide +kernel) (by decide +kernel),
    hquantity (by decide +kernel) (by decide +kernel)⟩

/-- The usual limits, but a tenth of a percent for the quantity. -/
def narrowQuantity : GuardrailLimits where
  quantityVariancePct := Binary64.ofRat (1 / 10)

set_option maxRecDepth 4000 in
/-- **The smaller deviation is not looked at.**  The line posts although its quantity is beyond the
limit: the price deviates more, and keeps its own limit. -/
theorem posted_beyond_quantity_limit :
    narrowQuantity.priceVariancePct.isFinite = true ∧
      narrowQuantity.quantityVariancePct.isFinite = true ∧
      ∃ e l d r, offPaper.evaluate (.standard narrowQuantity) .default = .ok e ∧
        offPaper.lines[0]? = some l ∧ e.decisions[0]? = some d ∧ d.eligibility = .autopilot ∧
        e.results[0]? = some r ∧ r.poLine = some ⟨"P-1", paperOrdered.lineNum⟩ ∧
        (percentChange l.quantity paperOrdered.quantity).abs.le narrowQuantity.quantityVariancePct =
          false := by
  have hauto : firstEligibility (offPaper.evaluate (.standard narrowQuantity) .default) =
      some .autopilot := by
    decide +kernel
  obtain ⟨e, d, he, hd, hposted⟩ := firstEligibility_eq_some_iff.1 hauto
  have hmatched : (offPaper.evaluate (.standard narrowQuantity) .default).toOption.bind
      (fun e => e.results[0]?.bind MatchResult.poLine) = some ⟨"P-1", 1⟩ := by
    decide +kernel
  rw [he] at hmatched
  have hresult : e.results[0]?.bind MatchResult.poLine = some ⟨"P-1", 1⟩ := hmatched
  obtain ⟨r, hr, href⟩ := Option.bind_eq_some_iff.1 hresult
  refine ⟨by decide +kernel, by decide +kernel, e, _, d, r, he, rfl, hd, hposted, hr, href, ?_⟩
  decide +kernel

set_option maxRecDepth 4000 in
/-- Nothing is asked of a line without deviations, not even under negative limits. -/
example :
    firstEligibility ((paper (Decimal.ofInt 1) (Decimal.ofInt 1)).evaluate
      (.standard
        { priceVariancePct := Binary64.ofInt (-1), quantityVariancePct := Binary64.ofInt (-1) })
      .default) = some .autopilot := by
  decide +kernel

end Snapshot
end Payables
