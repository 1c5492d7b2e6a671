import Payables.Proofs.Evaluation.Injection
import Payables.Proofs.Matching.Seeding

/-!
# Matching with a prior

A prior claims lines of the purchase order for lines of the invoice before anything is matched.
Those are out of play from then on: matching with the prior gives the other lines what matching
gives them on the snapshot from which both kinds of lines have been deleted
(`matchWithPrior_seeded`).
-/

namespace Payables

namespace Snapshot

variable {s : Snapshot} {prior : List MatchResult} {os : List LineOutcome}

/-- The snapshot without the lines that a prior is for and those that it carries. -/
def without (s : Snapshot) (prior : List MatchResult) : Snapshot :=
  { s with
    lines := s.lines.filter fun l => !MatchResult.seeds prior l.lineNum
    purchaseOrder := s.purchaseOrder.map fun po => po.without prior }

/-- **Seeding a prior is the same as deleting what it claims.**  Every line whose prior result
carries a line of the purchase order is given that line again, by the same strategy and with the
same raw confidence; every other line has the outcome that it has on the snapshot without them. -/
theorem matchWithPrior_seeded (hvalid : s.validate = .ok ()) {number : String}
    (hn : s.header.poNumber = some number) (h : s.matchWithPrior prior = .ok os) :
    (∀ (i : ℕ) (l : InvoiceLine) (r : MatchResult) (ref : PoLineRef), s.lines[i]? = some l →
      r ∈ prior → r.lineNum = l.lineNum → r.poLine = some ref →
        ref.poNumber = number ∧ ∃ strategy, r.strategy = some strategy ∧
          os[i]? = some (.assigned ⟨ref.lineNum, strategy, r.rawConfidence⟩)) ∧
      ∃ os', (s.without prior).matchLines = .ok os' ∧
        os'.length = (s.without prior).lines.length ∧
        (s.lines.zip os).filter (fun x => !MatchResult.seeds prior x.1.lineNum) =
          (s.without prior).lines.zip os' := by
  have hv := error?_eq_none_iff.1 (validate_eq_ok_iff.1 hvalid)
  obtain ⟨hcheck, ⟨hnone, -⟩ | ⟨_, po, b, -, hp, hseed, rfl⟩⟩ := matchWithPrior_eq_ok_iff.1 h
  · rw [hn] at hnone
    cases hnone
  obtain ⟨po', hp', rfl, -⟩ := hv.order number hn
  obtain rfl : po' = po := Option.some.inj (hp'.symm.trans hp)
  have hcoh := Board.play_coherent (Board.seed_coherent hcheck hseed) s.lines
  have hext := Board.play_extended (Board.seed_coherent hcheck hseed) s.lines
  have hreduced := Board.play_reduced s.lines (Board.seed_reduced hcheck hseed)
  obtain ⟨hprior, -⟩ := MatchResult.checkPrior_eq_ok_iff.1 hcheck
  constructor
  · intro i l r ref hl hr hnum href
    obtain ⟨hnames, -, hb⟩ := Board.seed_eq_ok_iff.1 hseed
    obtain ⟨strategy, hstrategy, hclaim⟩ := (hprior r hr).exists_claim href
    refine ⟨(hnames r hr ref href (by rw [hstrategy]; rfl)).1, strategy, hstrategy, ?_⟩
    have hmem : ⟨l.lineNum, ⟨ref.lineNum, strategy, r.rawConfidence⟩⟩ ∈ b.claims := by
      rw [hb, ← hnum]
      simpa [Board.claimAll, Board.ofOrder] using ⟨r, hr, hclaim⟩
    have hassigned := hcoh.assignment?_eq_some_iff.2 (hext.mem_claims hmem)
    rw [List.getElem?_map, hl, Option.map_some, Board.outcome, hassigned]
  · refine ⟨_, matchWithPrior_eq_ok_iff.2 ⟨rfl, Or.inr ⟨po'.poNumber, po'.without prior, _, hn, ?_,
      rfl, rfl⟩⟩, List.length_map _, ?_⟩
    · simp [without, hp]
    · rw [← List.map_prod_left_eq_zip, ← List.map_prod_left_eq_zip, List.filter_map]
      refine List.map_congr_left fun l hl => ?_
      have hnew : MatchResult.seeds prior l.lineNum = false := by
        simpa using (List.mem_filter.1 hl).2
      unfold Board.outcome
      rw [hreduced.others _ hnew]
      rfl

set_option maxRecDepth 4000 in
/-- The sundries keep their line, and the white paper is matched as if it were alone. -/
theorem office_seeded :
    ∃ os os', office.matchWithPrior [sundriesResult] = .ok os ∧
      os[1]? = some (.assigned ⟨10, .keyBased, 100⟩) ∧
      (office.without [sundriesResult]).matchLines = .ok os' ∧
      (office.lines.zip os).filter (fun x => !MatchResult.seeds [sundriesResult] x.1.lineNum) =
        [officeLine 2 "white paper" none].zip os' := by
  have hvalid : office.validate = .ok () := validate_eq_ok_iff.2 (by decide +kernel)
  obtain ⟨os, hos⟩ : ∃ os, office.matchWithPrior [sundriesResult] = .ok os :=
    exists_ok_of_isSome (by decide +kernel)
  obtain ⟨hseeded, os', hos', -, hothers⟩ := matchWithPrior_seeded hvalid rfl hos
  obtain ⟨-, strategy, hstrategy, hsundries⟩ := hseeded 1 (officeLine 1 "sundries" (some 20))
    sundriesResult ⟨"P-2", 10⟩ rfl List.mem_cons_self rfl rfl
  cases hstrategy
  exact ⟨os, os', hos, hsundries, hos', hothers⟩

end Snapshot
end Payables
