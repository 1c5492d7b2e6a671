import Payables.Matching.Score
import Payables.Proofs.Matching.Consistency
import Payables.Proofs.Matching.Outcome
import Payables.Proofs.Matching.Variance

/-!
# What a score is made of

A scored line is unplanned, unmatched, or assigned to a line of the purchase order
(`score_eq_ok_iff`); it keeps the identity of the invoice line, and a line that is assigned is
resolved.

* `scoreLines_eq_ok_iff` — lines are scored place by place.
* `InvoiceScore.ofResults_perm` — an invoice has the score of its results in any order.
* `inconsistency?_assignedResult` — with a raw confidence in range, the only thing that can be
  wrong with a scored result is a variance that is not finite.
-/

namespace Payables

theorem Variance.classify_isResolved (s : Strategy) (v : Variance) :
    (v.classify s).isResolved = true := by
  unfold classify
  split
  · rfl
  · split <;> rfl

/-- A variance is clean exactly within the tolerance of the strategy. -/
theorem Variance.classify_eq_matched_iff {s : Strategy} {v : Variance} :
    v.classify s = .matched ↔ v.pct.abs.le s.tolerance = true := by
  unfold classify
  split
  · rename_i hle
    exact iff_of_true rfl hle
  · rename_i hle
    refine iff_of_false ?_ hle
    split <;> nofun

/-- A variance that is measured on nothing is zero. -/
theorem Variance.pct_of_kind_none {l : InvoiceLine} {q : PurchaseOrderLine}
    (h : (measure l q).kind = .none) : (measure l q).pct = Binary64.zero := by
  rcases measure_cases l q with ⟨-, -, heq⟩ | ⟨-, heq⟩ | ⟨-, heq⟩
  · rw [heq]
    rfl
  · rw [heq] at h
    cases h
  · rw [heq] at h
    cases h

theorem Variance.kind_ne_unplannedCost (l : InvoiceLine) (q : PurchaseOrderLine) :
    (measure l q).kind ≠ .unplannedCost := by
  rcases measure_cases l q with ⟨-, -, heq⟩ | ⟨-, heq⟩ | ⟨-, heq⟩ <;> rw [heq] <;> nofun

theorem PurchaseOrder.mem_of_line?_eq_some {po : PurchaseOrder} {n : ℤ} {q : PurchaseOrderLine}
    (h : po.line? n = some q) : q ∈ po.lines ∧ q.lineNum = n :=
  ⟨List.mem_of_find?_eq_some h, by simpa using List.find?_some h⟩

namespace InvoiceLine

variable {l : InvoiceLine} {po : Option PurchaseOrder} {o : LineOutcome} {r : MatchResult}

theorem score_eq_ok_iff :
    l.score po o = .ok r ↔
      (o = .unplanned ∧ r = l.unplannedResult) ∨ (o = .unmatched ∧ r = l.unmatchedResult) ∨
        ∃ a order q, o = .assigned a ∧ po = some order ∧ order.line? a.poLine = some q ∧
          r = l.assignedResult a order q := by
  cases o with
  | unplanned => simp [score, eq_comm]
  | unmatched => simp [score, eq_comm]
  | assigned a =>
    cases po with
    | none => simp [score]
    | some order =>
      cases hq : order.line? a.poLine with
      | none => simp [score, hq]
      | some q => simp [score, hq, eq_comm]

/-- A scored line keeps its identity. -/
theorem score_identity (h : l.score po o = .ok r) :
    r.lineNum = l.lineNum ∧ r.invoiceId = l.invoiceId := by
  obtain ⟨-, rfl⟩ | ⟨-, rfl⟩ | ⟨_, _, _, -, -, -, rfl⟩ := score_eq_ok_iff.1 h <;> exact ⟨rfl, rfl⟩

/-- A resolved result comes from an assignment to a line of the purchase order. -/
theorem score_eq_ok_of_resolved (h : l.score po o = .ok r) (hr : r.status.isResolved = true) :
    ∃ a order q, o = .assigned a ∧ po = some order ∧ order.line? a.poLine = some q ∧
      r = l.assignedResult a order q := by
  obtain ⟨-, rfl⟩ | ⟨-, rfl⟩ | h := score_eq_ok_iff.1 h
  · cases hr
  · cases hr
  · exact h

/-- Only a line whose outcome is unplanned is scored as unplanned. -/
theorem score_unplanned_iff (h : l.score po o = .ok r) :
    r.status = .unplanned ↔ o = .unplanned := by
  obtain ⟨rfl, rfl⟩ | ⟨rfl, rfl⟩ | ⟨a, order, q, rfl, -, -, rfl⟩ := score_eq_ok_iff.1 h
  · simp [unplannedResult]
  · simp [unmatchedResult]
  · have hres := Variance.classify_isResolved a.strategy (Variance.measure l q)
    refine iff_of_false ?_ nofun
    intro hstatus
    have : ((Variance.measure l q).classify a.strategy) = .unplanned := hstatus
    rw [this] at hres
    cases hres

/-- So is only such a line scored as an unplanned cost. -/
theorem unplanned_of_score (h : l.score po o = .ok r)
    (hcost : r.status = .unplanned ∨ r.varianceKind = .unplannedCost) : o = .unplanned := by
  rcases hcost with hstatus | hkind
  · exact (score_unplanned_iff h).1 hstatus
  · obtain ⟨rfl, -⟩ | ⟨-, rfl⟩ | ⟨a, order, q, -, -, -, rfl⟩ := score_eq_ok_iff.1 h
    · rfl
    · cases hkind
    · exact absurd hkind (Variance.kind_ne_unplannedCost l q)

/-! ## Scored results are consistent -/

theorem consistent_unmatchedResult (l : InvoiceLine) : l.unmatchedResult.Consistent := by
  rw [← MatchResult.inconsistency?_eq_none_iff]
  rfl

theorem consistent_unplannedResult (l : InvoiceLine) : l.unplannedResult.Consistent := by
  rw [← MatchResult.inconsistency?_eq_none_iff]
  rfl

variable {a : Assignment} {order : PurchaseOrder} {q : PurchaseOrderLine}

/-- An assigned line with a raw confidence in range and a finite variance is consistent. -/
theorem consistent_assignedResult (hraw : a.rawConfidence ≤ 100)
    (hfinite : (Variance.measure l q).pct.isFinite = true) :
    (l.assignedResult a order q).Consistent where
  raw_le := hraw
  confidence_le := Variance.less_le _ _
  isFinite := hfinite
  kind := by
    intro hkind
    show (Variance.measure l q).pct.eqv Binary64.zero = true
    rw [Variance.pct_of_kind_none hkind]
    rfl
  resolved := fun _ => ⟨rfl, rfl⟩
  unresolved := by
    intro hres
    have hres' : ((Variance.measure l q).classify a.strategy).isResolved = false := hres
    rw [Variance.classify_isResolved] at hres'
    cases hres'
  tolerance := by
    intro strategy hstatus hstrategy
    cases hstrategy
    exact Binary64.lt_eq_false_of_le (Variance.classify_eq_matched_iff.1 hstatus)

/-- **What can be wrong with an assigned line**: its variance is not finite, and nothing else. -/
theorem inconsistency?_assignedResult (hraw : a.rawConfidence ≤ 100) :
    (l.assignedResult a order q).inconsistency? =
      if (Variance.measure l q).pct.isFinite then none else some .varianceNotFinite := by
  split
  · rename_i hfinite
    exact MatchResult.inconsistency?_eq_none_iff.2 (consistent_assignedResult hraw hfinite)
  · rename_i hfinite
    have hraw' : (l.assignedResult a order q).rawConfidence ≤ 100 := hraw
    have hconf : (l.assignedResult a order q).confidence
        ≤ (l.assignedResult a order q).rawConfidence := Variance.less_le _ _
    have hlost : (!(l.assignedResult a order q).variancePct.isFinite) = true := by
      show (!(Variance.measure l q).pct.isFinite) = true
      simpa using hfinite
    have hrange : ¬(decide (100 < (l.assignedResult a order q).confidence) ||
        decide (100 < (l.assignedResult a order q).rawConfidence)) = true := by
      simp only [Bool.or_eq_true, decide_eq_true_eq, not_or, UInt8.not_lt]
      exact ⟨UInt8.le_trans hconf hraw', hraw'⟩
    unfold MatchResult.inconsistency?
    rw [if_neg hrange, if_neg (UInt8.not_lt.2 hconf), if_pos hlost]

end InvoiceLine

/-! ## Several lines -/

/-- Lines are scored place by place. -/
theorem scoreLines_eq_ok_iff {po : Option PurchaseOrder} {xs : List (InvoiceLine × LineOutcome)}
    {rs : List MatchResult} :
    scoreLines po xs = .ok rs ↔ List.Forall₂ (fun x r => x.1.score po x.2 = .ok r) xs rs := by
  induction xs generalizing rs with
  | nil =>
    simp [scoreLines, eq_comm]
  | cons x xs ih =>
    obtain ⟨l, o⟩ := x
    rw [List.forall₂_cons_left_iff]
    simp only [scoreLines, bind_eq_ok_iff, ih, Except.ok.injEq]
    constructor
    · rintro ⟨r, hr, rs', hrs, rfl⟩
      exact ⟨r, rs', hr, hrs, rfl⟩
    · rintro ⟨r, rs', hr, hrs, rfl⟩
      exact ⟨r, hr, rs', hrs, rfl⟩

namespace InvoiceScore

theorem confidenceSum_perm {cs cs' : List UInt8} (h : cs.Perm cs') :
    confidenceSum cs = confidenceSum cs' :=
  have : RightCommutative fun (n : ℕ) (c : UInt8) => n + c.toNat :=
    ⟨fun n c d => Nat.add_right_comm n c.toNat d.toNat⟩
  h.foldl_eq 0

/-- The order of the results does not matter to the score. -/
theorem ofResults_perm {rs rs' : List MatchResult} (h : rs.Perm rs') :
    ofResults rs = ofResults rs' := by
  have hresolved : ((rs.filter fun r => r.status.isResolved).map MatchResult.confidence).Perm
      ((rs'.filter fun r => r.status.isResolved).map MatchResult.confidence) :=
    (h.filter _).map _
  have hempty : ((rs.filter fun r => r.status.isResolved).map MatchResult.confidence).isEmpty =
      ((rs'.filter fun r => r.status.isResolved).map MatchResult.confidence).isEmpty :=
    hresolved.isEmpty_eq
  simp only [ofResults, mean, hempty, confidenceSum_perm hresolved, hresolved.length_eq,
    h.length_eq]

end InvoiceScore

end Payables
