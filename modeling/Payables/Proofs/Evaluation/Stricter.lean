import Payables.Proofs.Decision.Stricter
import Payables.Proofs.Evaluation.Stages

/-!
# When more guardrails fire

Guardrails are recorded on results that are finished otherwise, and what is recorded can always be
read back.  So an evaluation in which more of them fire succeeds as well, and neither a line nor the
invoice is less restricted (`evaluate_of_moreFires`).

* `MoreRecorded` — a result beside the same one with more guardrails, as two policies read them;
  `moreRecorded_of_firing` — this is what becomes of a line on which more fires.
* `decideLines_of_moreRecorded`, `decide_of_moreRecorded` — such results are decided on at least as
  strictly.
-/

namespace Payables

variable {p p' : GuardrailPolicy} {t : Threshold} {r r' : MatchResult}

/-- A result beside the same one with more guardrails. -/
structure MoreRecorded (p p' : GuardrailPolicy) (r r' : MatchResult) : Prop where
  result : r' = { r with guardrails := r'.guardrails }
  groups : ∀ tr, p.partition r.guardrails = .ok tr →
    ∃ tr', p'.partition r'.guardrails = .ok tr' ∧ tr.hard ⊆ tr'.hard ∧ tr.soft ⊆ tr'.soft

/-- What is recorded of a line on which more fires, each rule with the severity it had. -/
theorem moreRecorded_of_firing {ctx ctx' : InvoiceContext} {l : InvoiceLine} {sc : MatchResult}
    (h : ∀ x ∈ p.firing ctx l sc, (∃ x' ∈ p'.firing ctx' l sc, x'.id = x.id) ∧
      p'.severity? x.id = p.severity? x.id) :
    MoreRecorded p p' { sc with guardrails := (p.triggered ctx l sc).all }
      { sc with guardrails := (p'.triggered ctx' l sc).all } where
  result := rfl
  groups := by
    intro tr htr
    obtain ⟨tr', htr'⟩ := p'.exists_partition_triggered ctx' l sc
    have hread := GuardrailPolicy.partition_triggered_lists htr
    have hread' := GuardrailPolicy.partition_triggered_lists htr'
    have hgroup : ∀ severity, tr.group severity ⊆ tr'.group severity := by
      intro severity g hg
      obtain ⟨⟨x, hx, rfl⟩, hsev⟩ := ((hread severity).mem_iff g).1 hg
      obtain ⟨hfires, hsame⟩ := h x hx
      exact ((hread' severity).mem_iff _).2 ⟨hfires, hsame.trans hsev⟩
    exact ⟨tr', htr', hgroup .hard, hgroup .soft⟩

/-- A result with more guardrails is decided on at least as strictly. -/
theorem MoreRecorded.decide (h : MoreRecorded p p' r r') {d : Decision}
    (hd : r.decide p t = .ok d) :
    ∃ d', r'.decide p' t = .ok d' ∧ d.eligibility ≤ d'.eligibility := by
  obtain ⟨hcons, tr, htr, rfl⟩ := MatchResult.decide_eq_ok_iff.1 hd
  obtain ⟨tr', htr', hhard, hsoft⟩ := h.groups tr htr
  refine ⟨_, MatchResult.decide_eq_ok_iff.2 ⟨?_, tr', htr', rfl⟩, ?_⟩
  · rw [h.result]
    exact hcons.record _
  · rw [h.result]
    exact MatchResult.decideWith_mono (r := r) hhard hsoft le_rfl

theorem decideLines_of_moreRecorded {rs rs' : List MatchResult}
    (h : List.Forall₂ (MoreRecorded p p') rs rs') {ds : List Decision}
    (hds : decideLines p t rs = .ok ds) :
    ∃ ds', decideLines p' t rs' = .ok ds' ∧
      List.Forall₂ (fun d d' => d.eligibility ≤ d'.eligibility) ds ds' := by
  rw [decideLines_eq_ok_iff] at hds
  simp only [decideLines_eq_ok_iff]
  induction h generalizing ds with
  | nil =>
    cases hds
    exact ⟨[], .nil, .nil⟩
  | cons hr _ ih =>
    cases hds with
    | cons hd hrest =>
      obtain ⟨d', hd', hle⟩ := hr.decide hd
      obtain ⟨ds', hds', hles⟩ := ih hrest
      exact ⟨d' :: ds', .cons hd' hds', .cons hle hles⟩

namespace Snapshot

variable {s : Snapshot} {e : Evaluation}

/-- The decision on an invoice whose results have more guardrails. -/
theorem decide_of_moreRecorded {rs rs' : List MatchResult} (hdecide : s.decide rs p t = .ok e)
    (h : List.Forall₂ (MoreRecorded p p') rs rs') (s' : Snapshot)
    (horder : s.purchaseOrder = s'.purchaseOrder) :
    ∃ e', s'.decide rs' p' t = .ok e' ∧
      List.Forall₂ (fun d d' => d.eligibility ≤ d'.eligibility) e.decisions e'.decisions ∧
      e.decision.eligibility ≤ e'.decision.eligibility := by
  obtain ⟨hrefs, ds, hds, rfl⟩ := decide_eq_ok_iff.1 hdecide
  obtain ⟨ds', hds', hles⟩ := decideLines_of_moreRecorded h hds
  have hrefs' : s'.checkReferences rs' = .ok () := by
    rw [checkReferences_eq_ok_iff] at hrefs ⊢
    intro r' hr' ref href
    obtain ⟨r, hr, hmore⟩ := exists_of_related h hr'
    rw [hmore.result] at href
    have hknows := hrefs r hr ref href
    unfold knowsLine at hknows ⊢
    rwa [← horder]
  refine ⟨_, decide_eq_ok_iff.2 ⟨hrefs', ds', hds', rfl⟩, hles, ?_⟩
  apply Eligibility.strictest_mono
  rwa [List.forall₂_map_left_iff, List.forall₂_map_right_iff]

/-- **More guardrails never relax a decision.**  Where everything that fires on a line fires on it
under another policy and another history as well, with the same severity, the evaluation succeeds
there too, and each line and the invoice are at least as restricted. -/
theorem evaluate_of_moreFires {posted : List PostedInvoice}
    (hmore : ∀ l ∈ s.lines, ∀ sc, ∀ x ∈ p.firing s.context l sc,
      (∃ x' ∈ p'.firing { s with posted := posted }.context l sc, x'.id = x.id) ∧
        p'.severity? x.id = p.severity? x.id)
    (h : s.evaluate p t = .ok e) :
    ∃ e', { s with posted := posted }.evaluate p' t = .ok e' ∧
      List.Forall₂ (fun d d' => d.eligibility ≤ d'.eligibility) e.decisions e'.decisions ∧
      e.decision.eligibility ≤ e'.decision.eligibility := by
  obtain ⟨hvalid, os, scored, hos, hscored, hdecide⟩ := evaluateWithPrior_eq_ok_iff.1 h
  have hrecorded : List.Forall₂ (MoreRecorded p p') (p.apply s scored)
      (p'.apply { s with posted := posted } scored) :=
    zipWith_related fun l hl sc => moreRecorded_of_firing (hmore l hl sc)
  obtain ⟨e', hdecide', hlines, hinvoice⟩ :=
    decide_of_moreRecorded hdecide hrecorded { s with posted := posted } rfl
  -- the stages before the guardrails do not look at the history
  exact ⟨e', evaluateWithPrior_eq_ok_iff.2 ⟨hvalid, os, scored, hos, hscored, hdecide'⟩, hlines,
    hinvoice⟩

end Snapshot
end Payables
