import Payables.Proofs.Decision.Stricter
import Payables.Proofs.Evaluation.Autopilot

/-!
# The threshold only tightens

No stage before the decisions reads the threshold, and no decision fails because of it
(`exists_evaluate_threshold`).  So two evaluations under different thresholds have the same results
and the same score, and their decisions differ only in how restrictive they are
(`evaluate_tightens`).
-/

namespace Payables

variable {p : GuardrailPolicy} {t t' : Threshold}

/-! ## Decisions on lines -/

/-- A line that can be decided on can be decided on under any threshold. -/
theorem exists_decideLines {rs : List MatchResult} {ds : List Decision}
    (h : decideLines p t rs = .ok ds) (t' : Threshold) : ∃ ds', decideLines p t' rs = .ok ds' := by
  rw [decideLines_eq_ok_iff] at h
  simp only [decideLines_eq_ok_iff]
  induction h with
  | nil => exact ⟨[], .nil⟩
  | @cons r d rs ds hr _ ih =>
    obtain ⟨hcons, tr, hpartition, -⟩ := MatchResult.decide_eq_ok_iff.1 hr
    obtain ⟨ds', hds'⟩ := ih
    exact ⟨r.decideWith tr t' :: ds',
      .cons (MatchResult.decide_eq_ok_iff.2 ⟨hcons, tr, hpartition, rfl⟩) hds'⟩

/-- Line by line, a higher threshold tightens the decisions. -/
theorem decideLines_tightens (ht : t.percent ≤ t'.percent) {rs : List MatchResult}
    {ds ds' : List Decision} (h : decideLines p t rs = .ok ds)
    (h' : decideLines p t' rs = .ok ds') : List.Forall₂ Decision.Tightens ds ds' := by
  rw [decideLines_eq_ok_iff] at h h'
  induction h generalizing ds' with
  | nil =>
    cases h'
    exact .nil
  | @cons r d rs ds hr _ ih =>
    cases h' with
    | cons hr' hrest' =>
      refine .cons ?_ (ih hrest')
      obtain ⟨-, tr, hpartition, rfl⟩ := MatchResult.decide_eq_ok_iff.1 hr
      obtain ⟨-, tr', hpartition', rfl⟩ := MatchResult.decide_eq_ok_iff.1 hr'
      obtain rfl : tr = tr' := Except.ok.inj (hpartition.symm.trans hpartition')
      exact r.decideWith_tightens tr ht

/-! ## The whole evaluation -/

/-- The decision on an invoice beside the one under a higher threshold. -/
structure InvoiceDecision.Tightens (d d' : InvoiceDecision) : Prop where
  invoiceId : d.invoiceId = d'.invoiceId
  confidence : d.confidence = d'.confidence
  eligibility : d.eligibility ≤ d'.eligibility
  forcedBy : d.forcedBy = d'.forcedBy
  auditFlags : d.auditFlags = d'.auditFlags

namespace InvoiceDecision

theorem ofLines_tightens {ds ds' : List Decision} (h : List.Forall₂ Decision.Tightens ds ds')
    (invoiceId : String) (rs : List MatchResult) (score : InvoiceScore) (p : GuardrailPolicy) :
    (ofLines invoiceId rs ds score p t).Tightens (ofLines invoiceId rs ds' score p t') where
  invoiceId := rfl
  confidence := rfl
  eligibility := by
    apply Eligibility.strictest_mono
    rw [List.forall₂_map_left_iff, List.forall₂_map_right_iff]
    exact h.imp fun _ _ htight => htight.eligibility
  forcedBy := by
    unfold ofLines
    simp only [List.flatMap_def]
    rw [map_eq_of_related h fun _ _ htight => htight.forcedBy]
  auditFlags := rfl

end InvoiceDecision

namespace Snapshot

variable {s : Snapshot} {e e' : Evaluation}

/-- Whether an evaluation succeeds does not depend on the threshold. -/
theorem exists_evaluate_threshold (h : s.evaluate p t = .ok e) (t' : Threshold) :
    ∃ e', s.evaluate p t' = .ok e' := by
  obtain ⟨hvalid, os, scored, hos, hscored, hdecide⟩ := evaluateWithPrior_eq_ok_iff.1 h
  obtain ⟨hrefs, ds, hds, -⟩ := decide_eq_ok_iff.1 hdecide
  obtain ⟨ds', hds'⟩ := exists_decideLines hds t'
  exact ⟨_, evaluateWithPrior_eq_ok_iff.2
    ⟨hvalid, os, scored, hos, hscored, decide_eq_ok_iff.2 ⟨hrefs, ds', hds', rfl⟩⟩⟩

/-- Both evaluations decide on the same results. -/
theorem decide_of_evaluate (h : s.evaluate p t = .ok e) (h' : s.evaluate p t' = .ok e') :
    s.decide e.results p t = .ok e ∧ s.decide e.results p t' = .ok e' := by
  obtain ⟨scored, hdecide, hdecide'⟩ := exists_scored_of_evaluations h h'
  have hresults : e.results = p.apply s scored := by
    obtain ⟨-, ds, -, rfl⟩ := decide_eq_ok_iff.1 hdecide
    rfl
  rw [hresults]
  exact ⟨hdecide, hdecide'⟩

/-- Deciding on the same results under a higher threshold. -/
theorem decide_tightens (ht : t.percent ≤ t'.percent) {rs : List MatchResult}
    (h : s.decide rs p t = .ok e) (h' : s.decide rs p t' = .ok e') :
    e.results = e'.results ∧ e.score = e'.score ∧
      List.Forall₂ Decision.Tightens e.decisions e'.decisions ∧
      e.decision.Tightens e'.decision := by
  obtain ⟨-, ds, hds, rfl⟩ := decide_eq_ok_iff.1 h
  obtain ⟨-, ds', hds', rfl⟩ := decide_eq_ok_iff.1 h'
  have htight := decideLines_tightens ht hds hds'
  exact ⟨rfl, rfl, htight, InvoiceDecision.ofLines_tightens htight _ _ _ _⟩

/-- **The threshold only tightens.**  An evaluation succeeds under one threshold if and only if it
does so under another.  Then results and score are the same, every line and the invoice are at most
as restricted under the lower threshold, put down to the same guardrails and with at most one
reason to review missing, and the second evaluation is the one that decides on the results of the
first. -/
theorem evaluate_tightens (s : Snapshot) (p : GuardrailPolicy) (ht : t.percent ≤ t'.percent) :
    ((∃ e, s.evaluate p t = .ok e) ↔ ∃ e', s.evaluate p t' = .ok e') ∧
      ∀ e e', s.evaluate p t = .ok e → s.evaluate p t' = .ok e' →
        e.results = e'.results ∧ e.score = e'.score ∧
          List.Forall₂ Decision.Tightens e.decisions e'.decisions ∧
          e.decision.Tightens e'.decision ∧ s.decide e.results p t' = .ok e' := by
  constructor
  · constructor
    · rintro ⟨e, h⟩
      exact exists_evaluate_threshold h t'
    · rintro ⟨e', h'⟩
      exact exists_evaluate_threshold h' t
  · intro e e' h h'
    obtain ⟨hdecide, hdecide'⟩ := decide_of_evaluate h h'
    obtain ⟨hresults, hscore, hlines, hinvoice⟩ := decide_tightens ht hdecide hdecide'
    exact ⟨hresults, hscore, hlines, hinvoice, hdecide'⟩

set_option maxRecDepth 4000 in
/-- A price of 1.01 posts at a threshold of ninety and is reviewed at the usual one, on the same
results. -/
theorem paper_tightens :
    ∃ e e', (paper ⟨101, 2⟩ ⟨101, 2⟩).evaluate .default ⟨90, by decide, by decide⟩ = .ok e ∧
      (paper ⟨101, 2⟩ ⟨101, 2⟩).evaluate .default .default = .ok e' ∧
      e.decision.eligibility = .autopilot ∧ e'.decision.eligibility = .manualReview ∧
      e.decision.eligibility ≤ e'.decision.eligibility ∧
      (paper ⟨101, 2⟩ ⟨101, 2⟩).decide e.results .default .default = .ok e' := by
  have hposted : ((paper ⟨101, 2⟩ ⟨101, 2⟩).evaluate .default
      ⟨90, by decide, by decide⟩).toOption.map (fun e => e.decision.eligibility) =
        some .autopilot := by
    decide +kernel
  have hreviewed : ((paper ⟨101, 2⟩ ⟨101, 2⟩).evaluate .default .default).toOption.map
      (fun e => e.decision.eligibility) = some .manualReview := by
    decide +kernel
  obtain ⟨e, he, hauto⟩ := exists_ok_of_map_eq hposted
  obtain ⟨e', he', hmanual⟩ := exists_ok_of_map_eq hreviewed
  obtain ⟨-, -, -, hinvoice, hdecide⟩ :=
    (evaluate_tightens (paper ⟨101, 2⟩ ⟨101, 2⟩) .default (by decide)).2 e e' he he'
  exact ⟨e, e', he, he', hauto, hmanual, hinvoice.eligibility, hdecide⟩

end Snapshot
end Payables
