import Payables.Proofs.Evaluation.Autopilot
import Payables.Proofs.Evaluation.Priority
import Payables.Proofs.Matching.Hundredths

/-!
# Strategy and score agree on a deviation

The quantity and price strategy looks at two deviations when it accepts a pair of lines, and the
score measures them once more when the line is assigned.

* `exists_accepted_of_result` — a result of any strategy but elimination comes from a pair of lines
  that the strategy accepts.
* `evaluate_deviation` — for the quantity and price strategy both look at the same number, at most
  two percent, so the match is clean, and both confidences follow from it.
-/

namespace Payables.Snapshot

open Binary64

variable {s : Snapshot} {p : GuardrailPolicy} {t : Threshold} {e : Evaluation}

/-- **What is behind a result.**  A result of a strategy that looks at pairs is the score of a pair
that the strategy accepts, with the confidence of that pair. -/
theorem exists_accepted_of_result (h : s.evaluate p t = .ok e) {r : MatchResult}
    (hr : r ∈ e.results) {S : Strategy} (hS : r.strategy = some S) (hpair : S ≠ .elimination) :
    ∃ po l q, s.purchaseOrder = some po ∧ l ∈ s.lines ∧ q ∈ po.lines ∧
      S.Accepts s.receipts l q ∧ r.Consistent ∧
      r = { l.assignedResult ⟨q.lineNum, S, S.pairConfidence s.receipts l q⟩ po q with
        guardrails := r.guardrails } := by
  obtain ⟨hv, os, hos⟩ := exists_outcomes h
  obtain ⟨i, hi⟩ := List.getElem?_of_mem hr
  obtain ⟨l, o, scored, d, hl, ho, hline⟩ := exists_line_of_result h hos hi
  have hstrategy : scored.strategy = some S := by
    rw [hline.result] at hS
    exact hS
  obtain ⟨-, rfl⟩ | ⟨-, rfl⟩ | ⟨a, po, q, rfl, hp, hq, rfl⟩ :=
    InvoiceLine.score_eq_ok_iff.1 hline.score
  · cases hstrategy
  · cases hstrategy
  obtain rfl : a.strategy = S := Option.some.inj hstrategy
  cases hn : s.header.poNumber with
  | none =>
    -- nothing is assigned without an order
    have hnil := Except.ok.inj (hos.symm.trans (matchLines_of_unordered hn))
    rw [hnil, List.getElem?_map, hl] at ho
    cases ho
  | some number =>
    obtain ⟨po', hp', -, hpo, hok⟩ := matchLines_eq_ok hv hn
    obtain rfl : po = po' := Option.some.inj (hp.symm.trans hp')
    obtain rfl : os = s.playedOutcomes po := Except.ok.inj (hos.symm.trans hok)
    obtain ⟨q', hq', hnum, haccepts, hraw⟩ := accepts_of_playedOutcomes hv hl ho hpair
    obtain ⟨hmem, hnum'⟩ := PurchaseOrder.mem_of_line?_eq_some hq
    obtain rfl : q = q' :=
      List.inj_on_of_nodup_map hpo.lineNums_nodup hmem hq' (hnum'.trans hnum.symm)
    refine ⟨po, l, q, hp, List.mem_of_getElem? hl, hmem, haccepts, hline.consistent, ?_⟩
    have ha : a = ⟨q.lineNum, a.strategy, a.strategy.pairConfidence s.receipts l q⟩ := by
      rw [hnum, ← hraw]
    rw [← ha, hline.result]

/-- **The strategy and the score agree.**  A result of the quantity and price strategy is matched,
with a variance of at most two percent.  Its raw confidence is 70 less seven and a half points for
each percent, and its confidence is that less another ten points for each percent, rounded with
halves going away from zero; so they are at least 55 and 35.  The variance counts hundredths of a
percent, and exact arithmetic on these gives the same confidences as binary64 arithmetic does. -/
theorem evaluate_deviation (h : s.evaluate p t = .ok e) {r : MatchResult} (hr : r ∈ e.results)
    (hS : r.strategy = some .qtyPrice) :
    r.status = .matched ∧ r.variancePct.abs.le (Binary64.ofNat 2) = true ∧
      (r.rawConfidence.toNat : ℚ) =
        70 - (r.variancePct.abs.mul (Binary64.ofRat (15 / 2))).round.value ∧
      (r.confidence.toNat : ℚ) =
        r.rawConfidence.toNat - (r.variancePct.abs.mul (Binary64.ofNat 10)).round.value ∧
      55 ≤ r.rawConfidence ∧ r.rawConfidence ≤ 70 ∧ 35 ≤ r.confidence ∧
      ∃ k ≤ 200, r.variancePct.abs = ofHundredths k ∧
        (r.rawConfidence.toNat : ℤ) = 70 - Decimal.nearest (15 / 2 * (k / 100)) ∧
        (r.confidence.toNat : ℤ) = r.rawConfidence.toNat - Decimal.nearest (10 * (k / 100)) := by
  obtain ⟨po, l, q, -, -, -, haccepts, hcons, heq⟩ := exists_accepted_of_result h hr hS nofun
  have hfinite : (Variance.measure l q).pct.isFinite = true := by
    rw [heq] at hcons
    exact hcons.isFinite
  have hle := Variance.measure_le_of_accepts haccepts hfinite
  obtain ⟨k, hk, habs⟩ := Variance.exists_ofHundredths_le hfinite hle
  have hpct : r.variancePct.abs = ofHundredths k := by
    rw [heq]
    exact habs
  have hraw : (r.rawConfidence.toNat : ℤ) = 70 - Decimal.nearest (15 / 2 * (k / 100)) := by
    rw [heq]
    exact Variance.toNat_pairConfidence s.receipts hk hfinite habs
  obtain ⟨hrate0, hrate⟩ := nearest_rate_mem hk
  have hconf : (r.confidence.toNat : ℤ) =
      r.rawConfidence.toNat - Decimal.nearest (10 * (k / 100)) := by
    have hpay : 20 ≤ r.rawConfidence.toNat := by omega
    rw [heq] at hpay ⊢
    exact Variance.toNat_confidence hk habs hpay
  obtain ⟨hten0, hten⟩ := nearest_tenfold_mem hk
  simp only [UInt8.le_iff_toNat_le]
  refine ⟨?_, ?_, ?_, ?_, ?_, ?_, ?_, k, hk, hpct, hraw, hconf⟩
  · rw [heq]
    exact Variance.classify_eq_matched_iff.2 hle
  · rw [heq]
    exact hle
  · rw [hpct]
    show _ = 70 - ((ofHundredths k).mul Board.deviationRate).round.value
    rw [rate_ofHundredths k hk, Binary64.value, if_neg Bool.false_ne_true]
    exact_mod_cast hraw
  · rw [hpct, tenfold_ofHundredths k hk, Binary64.value, if_neg Bool.false_ne_true]
    exact_mod_cast hconf
  · show 55 ≤ _
    omega
  · show _ ≤ 70
    omega
  · show 35 ≤ _
    omega

/-- The line of paper under another name, so that only its numbers fit the order. -/
def relabeledPaper (unitPrice amount : Decimal) : Snapshot :=
  { paper unitPrice amount with
    lines := [{ paperBilled unitPrice amount with description := "sheets", poLineRef := none }] }

set_option maxRecDepth 4000 in
/-- At a price of 1.006, six tenths of a percent cost four and a half points, rounded to five, and
six points more. -/
theorem relabeledPaper_deviation :
    ∃ e r, (relabeledPaper ⟨1006, 3⟩ ⟨101, 2⟩).evaluate .default .default = .ok e ∧
      e.results[0]? = some r ∧ r.strategy = some .qtyPrice ∧ r.status = .matched ∧
      r.rawConfidence = 65 ∧ r.confidence = 59 ∧ 35 ≤ r.confidence := by
  have hfirst : ((relabeledPaper ⟨1006, 3⟩ ⟨101, 2⟩).evaluate .default .default).toOption.map
      (fun e => e.results[0]?.map fun r => (r.strategy, r.rawConfidence, r.confidence)) =
      some (some (some .qtyPrice, 65, 59)) := by
    decide +kernel
  obtain ⟨e, he, hresult⟩ := exists_ok_of_map_eq hfirst
  obtain ⟨r, hr, hread⟩ := Option.map_eq_some_iff.1 hresult
  obtain ⟨hS, hraw, hconf⟩ : r.strategy = some .qtyPrice ∧ r.rawConfidence = 65 ∧
      r.confidence = 59 := by simpa using hread
  obtain ⟨hstatus, -, -, -, -, -, hleast, -⟩ := evaluate_deviation he (List.mem_of_getElem? hr) hS
  exact ⟨e, r, he, hr, hS, hstatus, hraw, hconf, hleast⟩

end Payables.Snapshot
