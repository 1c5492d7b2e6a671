import Payables.Proofs.Evaluation.Rescoring
import Payables.Proofs.Matching.HeadStart

/-!
# Carrying over a part of the results

Results that are carried over have made their claims before the first turn, also those that were
made late.  Every other line then chooses among fewer lines, but what it chose is still there, and
elimination finds the same remainder.  So the outcomes are the same whichever results are carried
over, and in whatever order (`evaluateWithPrior_part`).

Comparisons decide who wins, so all changes from the lines of the order to those of the invoice have
to be numbers.
-/

namespace Payables.Snapshot

variable {s : Snapshot} {os : List LineOutcome} {part : List MatchResult} {p : GuardrailPolicy}
  {t : Threshold} {e : Evaluation}

/-- Every line of the invoice can be compared with every line of the order. -/
def Comparable (s : Snapshot) : Prop :=
  ∀ po, s.purchaseOrder = some po → ∀ l ∈ s.lines, ∀ q ∈ po.lines, l.Comparable q

/-- The board that takes up a part of the results has a head start over the fresh one, and ends with
the same claims. -/
theorem exists_sameClaims_part (h : s.evaluate p t = .ok e) (hnum : s.Comparable)
    (hpart : part.Subperm e.results) (hos : s.matchLines = .ok os) {po : PurchaseOrder}
    (hb : s.OutcomesOf po ((Board.ofOrder po s.receipts).play s.lines) os) :
    ∃ seeded, (Board.ofOrder po s.receipts).seed po.poNumber part = .ok seeded ∧
      Board.SameClaims ((Board.ofOrder po s.receipts).play s.lines) (seeded.play s.lines) := by
  obtain ⟨seeded, hseed, hentries, hreceipts, hclaims⟩ := seed_part h hos hb hpart
  have hstart : Board.HeadStart (part.filterMap MatchResult.claim?)
      (Board.ofOrder po s.receipts) seeded := by
    refine ⟨hb.entries.symm.trans hentries, hb.receipts.symm.trans hreceipts, fun c => ?_⟩
    rw [hclaims]
    simp [Board.ofOrder]
  refine ⟨seeded, hseed, Board.play_headStart hstart (Board.coherent_ofOrder po s.receipts)
    (Board.seed_coherent (checkPrior_part h hpart) hseed) ?_ ?_⟩
  · intro c hc
    exact (mem_claims_results_iff h hos hb).1 (List.filterMap_subset _ hpart.subset hc)
  · intro l hl x hx
    obtain ⟨q, hq, rfl⟩ := Board.mem_entries_ofOrder.1 hx
    exact hnum po hb.supplied l hl q hq

/-- Matching with a part of the results carried over gives the same outcomes. -/
theorem matchWithPrior_part (h : s.evaluate p t = .ok e) (hnum : s.Comparable)
    (hpart : part.Subperm e.results) : s.matchWithPrior part = s.matchLines := by
  obtain ⟨hv, os, hos⟩ := exists_outcomes h
  have hcheck := checkPrior_part h hpart
  rw [show s.matchLines = .ok os from hos]
  obtain ⟨-, ⟨hn, -, rfl⟩ | ⟨number, po, fresh, hn, hp, hfresh, rfl⟩⟩ :=
    matchWithPrior_eq_ok_iff.1 hos
  · refine matchWithPrior_eq_ok_iff.2 ⟨hcheck, Or.inl ⟨hn, ?_, rfl⟩⟩
    intro r hr
    exact poLine_eq_none_of_unordered h hn (hpart.subset hr)
  · obtain ⟨rfl, hpo⟩ := hv.supplied hn hp
    have hb := outcomesOf_play hv rfl hn hp hpo hfresh
    obtain rfl : fresh = Board.ofOrder po s.receipts := Except.ok.inj hfresh.symm
    obtain ⟨seeded, hseed, hsame⟩ := exists_sameClaims_part h hnum hpart hos hb
    have hcoherent := Board.play_coherent (Board.seed_coherent hcheck hseed) s.lines
    refine matchWithPrior_eq_ok_iff.2 ⟨hcheck, Or.inr ⟨_, po, seeded, hn, hp, hseed, ?_⟩⟩
    rw [hsame.outcome_eq hb.coherent hcoherent]

/-- **Carrying over any part of a run changes nothing.**  With any of the results of an evaluation
carried over, in any order, the next evaluation is the one without a prior, under any policy and
threshold; under the same ones it returns what the first one did. -/
theorem evaluateWithPrior_part (h : s.evaluate p t = .ok e) (hnum : s.Comparable)
    (hpart : part.Subperm e.results) :
    (∀ (p' : GuardrailPolicy) (t' : Threshold),
        s.evaluateWithPrior part p' t' = s.evaluate p' t') ∧
      s.evaluateWithPrior part p t = .ok e := by
  have hsame : ∀ (p' : GuardrailPolicy) (t' : Threshold),
      s.evaluateWithPrior part p' t' = s.evaluate p' t' := by
    intro p' t'
    unfold evaluate evaluateWithPrior
    rw [matchWithPrior_part h hnum hpart]
    rfl
  exact ⟨hsame, (hsame p t).trans h⟩

/-- The office invoice with its last claim, the one of elimination, made first. -/
theorem office_part :
    ∃ e, office.evaluate .default .default = .ok e ∧
      (e.results.take 1).map MatchResult.strategy = [some .elimination] ∧
      office.evaluateWithPrior (e.results.take 1) .default .default = .ok e := by
  have hlast : (office.evaluate .default .default).toOption.map
      (fun e => (e.results.take 1).map MatchResult.strategy) = some [some .elimination] := by
    decide +kernel
  obtain ⟨e, he, hstrategy⟩ := exists_ok_of_map_eq hlast
  have hnum : office.Comparable := by
    intro po hpo
    cases hpo
    decide +kernel
  exact ⟨e, he, hstrategy,
    (evaluateWithPrior_part he hnum (List.take_sublist 1 e.results).subperm).2⟩

end Payables.Snapshot
