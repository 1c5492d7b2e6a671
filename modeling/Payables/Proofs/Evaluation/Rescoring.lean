import Payables.Proofs.Evaluation.Injection

/-!
# Carrying over all results

The results of an evaluation, or any part of them, are accepted as a prior (`checkPrior_part`), and
claim again what they were given (`seed_part`).  With all of them the board is the settled one, up
to the order of its claims, so nothing is matched anew and the next evaluation is the one without a
prior, whatever the policy (`evaluateWithPrior_results`).
-/

namespace Payables.Snapshot

variable {s : Snapshot} {prior part : List MatchResult} {os : List LineOutcome}
  {p : GuardrailPolicy} {t : Threshold} {e : Evaluation}

/-! ## The results as a prior -/

theorem results_lineNum (h : s.evaluateWithPrior prior p t = .ok e) :
    e.results.map MatchResult.lineNum = s.lines.map InvoiceLine.lineNum := by
  obtain ⟨-, os, hos⟩ := exists_outcomes h
  refine List.ext_getElem? fun i => ?_
  rw [List.getElem?_map, List.getElem?_map]
  cases hl : s.lines[i]? with
  | none =>
    have hlen : s.lines.length ≤ i := List.getElem?_eq_none_iff.1 hl
    rw [← (length_of_evaluateWithPrior h).1] at hlen
    rw [List.getElem?_eq_none_iff.2 hlen]
    rfl
  | some l =>
    obtain ⟨o, scored, r, d, -, hr, -, hline⟩ := evaluateWithPrior_line h hos hl
    rw [hr, Option.map_some, Option.map_some, hline.result,
      (InvoiceLine.score_identity hline.score).1]

/-- No part of the results is of one line twice. -/
theorem part_nodup (h : s.evaluateWithPrior prior p t = .ok e) (hpart : part.Subperm e.results) :
    (part.map MatchResult.lineNum).Nodup := by
  obtain ⟨between, hperm, hsub⟩ := hpart
  have hnodup := (exists_outcomes h).1.lineNums_nodup
  rw [← results_lineNum h] at hnodup
  exact (hperm.map _).nodup_iff.1 (hnodup.sublist (hsub.map _))

/-- Everything that an evaluation returns may be carried over, or any part of it. -/
theorem checkPrior_part (h : s.evaluateWithPrior prior p t = .ok e)
    (hpart : part.Subperm e.results) : MatchResult.checkPrior s [] part = .ok () := by
  obtain ⟨hv, os, hos⟩ := exists_outcomes h
  refine MatchResult.checkPrior_eq_ok_iff.2 ⟨?_, freshNumbers_empty.2 (part_nodup h hpart)⟩
  intro r hr
  obtain ⟨i, hi⟩ := List.getElem?_of_mem (hpart.subset hr)
  obtain ⟨l, o, scored, d, hl, -, hline⟩ := exists_line_of_result h hos hi
  obtain ⟨hnum, hid⟩ := InvoiceLine.score_identity hline.score
  have hmem := List.mem_of_getElem? hl
  refine ⟨?_, ⟨l, hmem, ?_⟩, hline.consistent.wholeClaim, hline.consistent⟩
  · rw [← hv.invoiceId l hmem, ← hid, hline.result]
  · rw [← hnum, hline.result]

/-- Without a purchase order nothing is carried over. -/
theorem poLine_eq_none_of_unordered (h : s.evaluateWithPrior prior p t = .ok e)
    (hn : s.header.poNumber = none) {r : MatchResult} (hr : r ∈ e.results) : r.poLine = none := by
  obtain ⟨hv, os, hos⟩ := exists_outcomes h
  obtain ⟨i, hi⟩ := List.getElem?_of_mem hr
  obtain ⟨l, o, scored, d, hl, ho, hline⟩ := exists_line_of_result h hos hi
  have hfits := hline.fits hv hos hl ho
  exact (hfits.unresolved_iff.1 (Or.inr (hfits.unplanned_iff.2 hn))).1

/-! ## The claims of the results -/

/-- The results claim what is claimed on the board that they were read off. -/
theorem mem_claims_results_iff (h : s.evaluateWithPrior prior p t = .ok e)
    (hos : s.matchWithPrior prior = .ok os) {po : PurchaseOrder} {b : Board}
    (hb : s.OutcomesOf po b os) {c : BoardClaim} :
    c ∈ e.results.filterMap MatchResult.claim? ↔ c ∈ b.claims := by
  rw [List.mem_filterMap]
  constructor
  · rintro ⟨r, hr, hc⟩
    obtain ⟨i, hi⟩ := List.getElem?_of_mem hr
    obtain ⟨l, o, scored, d, hl, ho, hline⟩ := exists_line_of_result h hos hi
    obtain rfl := hb.outcome_eq hl ho
    rw [(hline.claim_eq hb).2] at hc
    obtain ⟨a, ha, rfl⟩ := Option.map_eq_some_iff.1 hc
    exact hb.coherent.assignment?_eq_some_iff.1 ha
  · intro hc
    obtain ⟨l, hmem, hnum⟩ := hb.onInvoice c hc
    obtain ⟨i, hl⟩ := List.getElem?_of_mem hmem
    obtain ⟨o, scored, r, d, ho, hr, -, hline⟩ := evaluateWithPrior_line h hos hl
    obtain rfl := hb.outcome_eq hl ho
    refine ⟨r, List.mem_of_getElem? hr, ?_⟩
    have ha : b.assignment? l.lineNum = some c.assignment := by
      rw [hb.coherent.assignment?_eq_some_iff, hnum]
      exact hc
    rw [(hline.claim_eq hb).2, ha, Option.map_some, hnum]

/-- The results name lines of the order. -/
theorem names_results (h : s.evaluateWithPrior prior p t = .ok e)
    (hos : s.matchWithPrior prior = .ok os) {po : PurchaseOrder} {b : Board}
    (hb : s.OutcomesOf po b os) {r : MatchResult} (hr : r ∈ e.results) :
    (Board.ofOrder po s.receipts).Names po.poNumber r := by
  obtain ⟨i, hi⟩ := List.getElem?_of_mem hr
  obtain ⟨l, o, scored, d, hl, ho, hline⟩ := exists_line_of_result h hos hi
  obtain rfl := hb.outcome_eq hl ho
  intro ref href _
  rw [(hline.claim_eq hb).1] at href
  obtain ⟨a, ha, rfl⟩ := Option.map_eq_some_iff.1 href
  have hhas := hb.coherent.hasLine _ (hb.coherent.assignment?_eq_some_iff.1 ha)
  refine ⟨rfl, ?_⟩
  unfold Board.hasLine at hhas ⊢
  rwa [← hb.entries]

/-- **The results are accepted as claims**, and so is any part of them: the fresh board claims what
the part was given. -/
theorem seed_part (h : s.evaluateWithPrior prior p t = .ok e)
    (hos : s.matchWithPrior prior = .ok os) {po : PurchaseOrder} {b : Board}
    (hb : s.OutcomesOf po b os) (hpart : part.Subperm e.results) :
    ∃ b', (Board.ofOrder po s.receipts).seed po.poNumber part = .ok b' ∧
      b.entries = b'.entries ∧ b.receipts = b'.receipts ∧
      ∀ c, c ∈ b'.claims ↔ c ∈ part.filterMap MatchResult.claim? := by
  have hmem : ∀ c ∈ part.filterMap MatchResult.claim?, c ∈ b.claims := by
    intro c hc
    exact (mem_claims_results_iff h hos hb).1 (List.filterMap_subset _ hpart.subset hc)
  have hlineNums : ((part.filterMap MatchResult.claim?).map BoardClaim.lineNum).Nodup :=
    (part_nodup h hpart).sublist (MatchResult.claims_sublist part)
  have hpoLines : ((part.filterMap MatchResult.claim?).map BoardClaim.poLine).Nodup := by
    refine List.Nodup.map_on ?_ hlineNums.of_map
    intro c hc c' hc' heq
    exact List.inj_on_of_nodup_map hb.coherent.poLines_nodup (hmem c hc) (hmem c' hc') heq
  refine ⟨_, Board.seed_eq_ok_iff.2 ⟨?_, freshNumbers_empty.2 hpoLines, rfl⟩, hb.entries,
    hb.receipts, ?_⟩
  · intro r hr
    exact names_results h hos hb (hpart.subset hr)
  · intro c
    simp [Board.claimAll, Board.ofOrder]

/-! ## Matching again -/

/-- Matching with all results carried over gives the same outcomes. -/
theorem matchWithPrior_results (h : s.evaluateWithPrior prior p t = .ok e) :
    s.matchWithPrior e.results = s.matchWithPrior prior := by
  obtain ⟨hv, os, hos⟩ := exists_outcomes h
  have hcheck := checkPrior_part h (List.Subperm.refl e.results)
  rw [hos]
  rcases exists_board hv hos with ⟨hn, rfl⟩ | ⟨po, b, hb⟩
  · exact matchWithPrior_eq_ok_iff.2
      ⟨hcheck, Or.inl ⟨hn, fun r hr => poLine_eq_none_of_unordered h hn hr, rfl⟩⟩
  · obtain ⟨b', hseed, hentries, hreceipts, hclaims⟩ :=
      seed_part h hos hb (List.Subperm.refl e.results)
    have hsame : Board.SameClaims b b' := by
      refine ⟨hentries, hreceipts, fun c => ?_⟩
      rw [hclaims, mem_claims_results_iff h hos hb]
    have hcoherent := Board.seed_coherent hcheck hseed
    have hplay : b'.play s.lines = b' :=
      Board.play_of_settled hcoherent (hb.settled.of_sameClaims hsame)
    refine matchWithPrior_eq_ok_iff.2
      ⟨hcheck, Or.inr ⟨_, po, b', hb.named, hb.supplied, hseed, ?_⟩⟩
    rw [hb.outcomes, hplay, hsame.outcome_eq hb.coherent hcoherent]

/-- **Rescoring is stable.**  With all results of an evaluation carried over, the next evaluation is
the one without a prior, under any policy and threshold; under the same ones it returns what it was
given. -/
theorem evaluateWithPrior_results (h : s.evaluate p t = .ok e) :
    (∀ (p' : GuardrailPolicy) (t' : Threshold),
        s.evaluateWithPrior e.results p' t' = s.evaluate p' t') ∧
      s.evaluateWithPrior e.results p t = .ok e := by
  have hsame : ∀ (p' : GuardrailPolicy) (t' : Threshold),
      s.evaluateWithPrior e.results p' t' = s.evaluate p' t' := by
    intro p' t'
    unfold evaluate evaluateWithPrior
    rw [matchWithPrior_results h]
  exact ⟨hsame, (hsame p t).trans h⟩

/-- The office invoice under another threshold. -/
theorem office_results :
    ∃ e, office.evaluate .default .default = .ok e ∧
      office.evaluateWithPrior e.results .default ⟨60, by decide, by decide⟩ =
        office.evaluate .default ⟨60, by decide, by decide⟩ := by
  obtain ⟨e, he⟩ := office_evaluates
  exact ⟨e, he, (evaluateWithPrior_results he).1 _ _⟩

end Payables.Snapshot
