import Payables.Proofs.Evaluation.Errors
import Payables.Proofs.Evaluation.Policy
import Payables.Proofs.Evaluation.Stricter
import Payables.Proofs.Ranking

/-!
# When rules are added to a policy

A policy that keeps the rules of another, with their severities and limits, and adds some of its own
records what the other records and reads it back as the other does.  So the two accept the same
snapshots, and under the larger policy no line and no invoice is less restricted
(`evaluate_of_extends`).

* `GuardrailPolicy.Extends` — rules that are added to a policy, in any order.
* `MatchResult.Notes` — a result beside the same one with more guardrails, as decisions read them:
  nothing is added that holds a line back.  This is what rules that only leave a note do
  (`notes_of_audit`), and decisions do not see it (`decideLines_of_notes`).
-/

namespace Payables

variable {p p' : GuardrailPolicy} {added : List GuardrailDefinition} {t : Threshold}

/-! ## Policies -/

namespace GuardrailPolicy

/-- A policy with the rules of another and some more, in any order, under the same limits; every
rule is defined once. -/
structure Extends (p p' : GuardrailPolicy) (added : List GuardrailDefinition) : Prop where
  limits : p'.limits = p.limits
  definitions : p'.definitions.Perm (p.definitions ++ added)
  nodup : (p'.definitions.map GuardrailDefinition.id).Nodup

namespace Extends

variable {ctx : InvoiceContext} {l : InvoiceLine} {r : MatchResult} {x : GuardrailDefinition}

theorem mem_iff (h : p.Extends p' added) :
    x ∈ p'.definitions ↔ x ∈ p.definitions ∨ x ∈ added := by
  rw [h.definitions.mem_iff, List.mem_append]

/-- The smaller policy defines every rule once too. -/
theorem nodup_left (h : p.Extends p' added) :
    (p.definitions.map GuardrailDefinition.id).Nodup := by
  have hall := (h.definitions.map GuardrailDefinition.id).nodup_iff.1 h.nodup
  rw [List.map_append] at hall
  exact hall.of_append_left

/-- The rules of both policies fire on the same lines. -/
theorem mem_firing_iff (h : p.Extends p' added) :
    x ∈ p'.firing ctx l r ↔ (x ∈ p.definitions ∨ x ∈ added) ∧
      x.id.fires p.limits ctx l r = true := by
  rw [firing, List.mem_filter, h.mem_iff, h.limits]

theorem firing_subset (h : p.Extends p' added) : p.firing ctx l r ⊆ p'.firing ctx l r := by
  intro x hx
  obtain ⟨hmem, hfires⟩ := List.mem_filter.1 hx
  exact h.mem_firing_iff.2 ⟨Or.inl hmem, hfires⟩

/-- A rule keeps its severity. -/
theorem severity? (h : p.Extends p' added) {g : Guardrail} {severity : Severity}
    (hg : p.severity? g = some severity) : p'.severity? g = some severity := by
  obtain ⟨x, hx, hid⟩ := (severity?_eq_some_iff h.nodup_left).1 hg
  exact (severity?_eq_some_iff h.nodup).2 ⟨x, h.mem_iff.2 (Or.inl hx), hid⟩

/-- What is recorded of a line is recorded under the larger policy, with the same severity. -/
theorem moreRecorded (h : p.Extends p' added) (ctx : InvoiceContext) (l : InvoiceLine)
    (sc : MatchResult) :
    MoreRecorded p p' { sc with guardrails := (p.triggered ctx l sc).all }
      { sc with guardrails := (p'.triggered ctx l sc).all } := by
  refine moreRecorded_of_firing fun x hx => ⟨⟨x, h.firing_subset hx, rfl⟩, ?_⟩
  have hseverity : p.severity? x.id = some x.severity :=
    (severity?_eq_some_iff h.nodup_left).2 ⟨x, (List.mem_filter.1 hx).1, rfl, rfl⟩
  rw [h.severity? hseverity, hseverity]

theorem all_subset (h : p.Extends p' added) (ctx : InvoiceContext) (l : InvoiceLine)
    (sc : MatchResult) : (p.triggered ctx l sc).all ⊆ (p'.triggered ctx l sc).all := by
  intro g hg
  obtain ⟨x, hx, rfl⟩ := ((all_lists p ctx l sc).mem_iff g).1 hg
  exact ((all_lists p' ctx l sc).mem_iff _).2 ⟨x, h.firing_subset hx, rfl⟩

end Extends
end GuardrailPolicy

/-! ## Rules that only leave a note -/

/-- A result beside the same one with more guardrails, none of which holds a line back. -/
structure MatchResult.Notes (p p' : GuardrailPolicy) (r r' : MatchResult) : Prop where
  result : r' = { r with guardrails := r'.guardrails }
  groups : ∀ tr, p.partition r.guardrails = .ok tr →
    ∃ tr', p'.partition r'.guardrails = .ok tr' ∧ tr'.hard = tr.hard ∧ tr'.soft = tr.soft

/-- Decisions are made on the guardrails that hold a line back. -/
theorem MatchResult.decideWith_congr {tr tr' : TriggeredGuardrails} (r : MatchResult)
    (hhard : tr'.hard = tr.hard) (hsoft : tr'.soft = tr.soft) (t : Threshold) :
    r.decideWith tr' t = r.decideWith tr t := by
  unfold decideWith reviewReasons
  rw [hhard, hsoft]

/-- Rules that only leave a note add nothing that holds a line back. -/
theorem GuardrailPolicy.Extends.notes_of_audit (h : p.Extends p' added)
    (haudit : ∀ x ∈ added, x.severity = .audit) (ctx : InvoiceContext) (l : InvoiceLine)
    (sc : MatchResult) :
    MatchResult.Notes p p' { sc with guardrails := (p.triggered ctx l sc).all }
      { sc with guardrails := (p'.triggered ctx l sc).all } where
  result := rfl
  groups := by
    intro tr htr
    obtain ⟨tr', htr'⟩ := p'.exists_partition_triggered ctx l sc
    have hread := partition_triggered h.nodup_left htr
    have hread' := partition_triggered h.nodup htr'
    have hgroup : ∀ severity, severity ≠ .audit → tr'.group severity = tr.group severity := by
      intro severity hne
      refine (hread' severity).unique ((hread severity).congr fun g => ?_)
      constructor
      · rintro ⟨x, hx, hid⟩
        exact ⟨x, h.firing_subset hx, hid⟩
      · rintro ⟨x, hx, hid, rfl⟩
        obtain ⟨hmem | hadded, hfires⟩ := h.mem_firing_iff.1 hx
        · exact ⟨x, List.mem_filter.2 ⟨hmem, hfires⟩, hid, rfl⟩
        · exact absurd (haudit x hadded) hne
    exact ⟨tr', htr', hgroup .hard (by decide), hgroup .soft (by decide)⟩

theorem MatchResult.Notes.decide {r r' : MatchResult} (h : r.Notes p p' r') {d : Decision}
    (hd : r.decide p t = .ok d) : r'.decide p' t = .ok d := by
  obtain ⟨hcons, tr, htr, rfl⟩ := MatchResult.decide_eq_ok_iff.1 hd
  obtain ⟨tr', htr', hhard, hsoft⟩ := h.groups tr htr
  refine MatchResult.decide_eq_ok_iff.2 ⟨?_, tr', htr', ?_⟩
  · rw [h.result]
    exact hcons.record _
  · rw [h.result]
    exact (decideWith_congr r hhard hsoft t).symm

/-- Notes leave the decisions on the lines as they are. -/
theorem decideLines_of_notes {rs rs' : List MatchResult}
    (h : List.Forall₂ (MatchResult.Notes p p') rs rs') {ds : List Decision}
    (hds : decideLines p t rs = .ok ds) : decideLines p' t rs' = .ok ds := by
  rw [decideLines_eq_ok_iff] at hds ⊢
  induction h generalizing ds with
  | nil =>
    cases hds
    exact .nil
  | cons hr _ ih =>
    cases hds with
    | cons hd hrest => exact .cons (hr.decide hd) (ih hrest)

/-! ## The whole evaluation -/

/-- A result beside the same one with more guardrails on record. -/
structure MatchResult.RecordsMore (r r' : MatchResult) : Prop where
  result : r' = { r with guardrails := r'.guardrails }
  guardrails : r.guardrails ⊆ r'.guardrails

/-- An evaluation beside one that restricts the invoice and its lines at least as much, on the same
results but for the guardrails on record. -/
structure Evaluation.RestrictedBy (e e' : Evaluation) : Prop where
  results : List.Forall₂ MatchResult.RecordsMore e.results e'.results
  score : e'.score = e.score
  lines : List.Forall₂ (fun d d' => d.eligibility ≤ d'.eligibility) e.decisions e'.decisions
  invoice : e.decision.eligibility ≤ e'.decision.eligibility
  auditFlags : e.decision.auditFlags ⊆ e'.decision.auditFlags

/-- An evaluation beside one that decides the same way, apart from its audit flags. -/
structure Evaluation.DecidedAs (e e' : Evaluation) : Prop where
  lines : e'.decisions = e.decisions
  invoice : e'.decision = { e.decision with auditFlags := e'.decision.auditFlags }

/-- The guardrails on record are not scored. -/
theorem InvoiceScore.ofResults_of_recordsMore {rs rs' : List MatchResult}
    (h : List.Forall₂ MatchResult.RecordsMore rs rs') : ofResults rs' = ofResults rs := by
  refine (ofResults_eq_of_related (h.imp fun r r' hr => ?_)).symm
  rw [hr.result]
  exact ⟨rfl, rfl⟩

/-- An audit flag stays one where rules are added. -/
theorem GuardrailPolicy.Extends.auditFlags_subset (h : p.Extends p' added)
    {rs rs' : List MatchResult} (hrs : List.Forall₂ MatchResult.RecordsMore rs rs')
    (invoiceId : String) (ds ds' : List Decision) (score score' : InvoiceScore) :
    (InvoiceDecision.ofLines invoiceId rs ds score p t).auditFlags ⊆
      (InvoiceDecision.ofLines invoiceId rs' ds' score' p' t).auditFlags := by
  intro g hg
  obtain ⟨hrecorded, hnote⟩ := List.mem_filter.1 (((Guardrail.lists_sorted _).mem_iff g).1 hg)
  obtain ⟨r, hr, hmem⟩ := List.mem_flatMap.1 hrecorded
  obtain ⟨r', hr', hmore⟩ := exists_of_related hrs.flip hr
  refine ((Guardrail.lists_sorted _).mem_iff g).2 (List.mem_filter.2 ⟨?_, ?_⟩)
  · exact List.mem_flatMap.2 ⟨r', hr', hmore.guardrails hmem⟩
  · rw [beq_iff_eq] at hnote ⊢
    exact h.severity? hnote

namespace Snapshot

variable {s : Snapshot} {e e' : Evaluation}

/-- Whether an evaluation succeeds does not depend on the policy. -/
theorem exists_evaluate_policy (h : s.evaluate p t = .ok e) (p' : GuardrailPolicy) :
    ∃ e', s.evaluate p' t = .ok e' := by
  obtain ⟨hv, os, hos⟩ := exists_outcomes h
  rw [exists_evaluate_iff_of_valid hv hos]
  exact (exists_evaluate_iff_of_valid hv hos).1 ⟨e, h⟩

/-- Deciding on the same lines under more rules. -/
theorem decide_of_extends (h : p.Extends p' added) {scored : List MatchResult}
    (hd : s.decide (p.apply s scored) p t = .ok e)
    (hd' : s.decide (p'.apply s scored) p' t = .ok e') : e.RestrictedBy e' := by
  have hmore : List.Forall₂ (MoreRecorded p p') (p.apply s scored) (p'.apply s scored) :=
    zipWith_related fun l _ sc => h.moreRecorded s.context l sc
  have hresults :
      List.Forall₂ MatchResult.RecordsMore (p.apply s scored) (p'.apply s scored) :=
    zipWith_related fun l _ sc => ⟨rfl, h.all_subset s.context l sc⟩
  obtain ⟨e'', hd'', hlines, hinvoice⟩ := decide_of_moreRecorded hd hmore s rfl
  obtain rfl : e'' = e' := Except.ok.inj (hd''.symm.trans hd')
  obtain ⟨-, ds, -, rfl⟩ := decide_eq_ok_iff.1 hd
  obtain ⟨-, ds', -, rfl⟩ := decide_eq_ok_iff.1 hd'
  exact ⟨hresults, InvoiceScore.ofResults_of_recordsMore hresults, hlines, hinvoice,
    h.auditFlags_subset hresults _ _ _ _ _⟩

/-- Deciding on the same lines under more rules that only leave a note. -/
theorem decide_of_audit (h : p.Extends p' added) (haudit : ∀ x ∈ added, x.severity = .audit)
    {scored : List MatchResult} (hd : s.decide (p.apply s scored) p t = .ok e)
    (hd' : s.decide (p'.apply s scored) p' t = .ok e') : e.DecidedAs e' := by
  have hscore := (decide_of_extends h hd hd').score
  have hnotes : List.Forall₂ (MatchResult.Notes p p') (p.apply s scored) (p'.apply s scored) :=
    zipWith_related fun l _ sc => h.notes_of_audit haudit s.context l sc
  obtain ⟨-, ds, hds, rfl⟩ := decide_eq_ok_iff.1 hd
  obtain ⟨-, ds', hds', rfl⟩ := decide_eq_ok_iff.1 hd'
  obtain rfl : ds = ds' := Except.ok.inj ((decideLines_of_notes hnotes hds).symm.trans hds')
  refine ⟨rfl, ?_⟩
  dsimp only at hscore ⊢
  rw [hscore]
  rfl

/-- **More rules never relax a decision.**  Under a policy with the rules of another and some more,
in any order, an evaluation succeeds if and only if it does under the other.  Then the results
differ only in the guardrails on record, of which there are at least as many on each line, and no
line and no invoice is less restricted.  Where the additional rules only leave a note, the decisions
are the same and there are at least as many audit flags. -/
theorem evaluate_of_extends (s : Snapshot) (t : Threshold) (h : p.Extends p' added) :
    ((∃ e, s.evaluate p t = .ok e) ↔ ∃ e', s.evaluate p' t = .ok e') ∧
      ∀ e e', s.evaluate p t = .ok e → s.evaluate p' t = .ok e' →
        e.RestrictedBy e' ∧ ((∀ x ∈ added, x.severity = .audit) → e.DecidedAs e') := by
  refine ⟨⟨?_, ?_⟩, ?_⟩
  · rintro ⟨e, he⟩
    exact exists_evaluate_policy he p'
  · rintro ⟨e', he'⟩
    exact exists_evaluate_policy he' p
  · intro e e' he he'
    obtain ⟨scored, hd, hd'⟩ := exists_scored_of_evaluations he he'
    exact ⟨decide_of_extends h hd hd', fun haudit => decide_of_audit h haudit hd hd'⟩

/-! ## A rule that watches vendors -/

/-- The rule that leaves a note on vendors that are not reliable. -/
def watchVendors : GuardrailDefinition :=
  ⟨.vendorReliabilityWatch, .audit, "the vendor is not reliable"⟩

/-- The policy of one rule with this one put before it. -/
def watchful : GuardrailPolicy where
  definitions := watchVendors :: lenient.definitions
  limits := lenient.limits

/-- The office invoice of a vendor who is blocked and not reliable. -/
def shadyOffice : Snapshot := { office with vendor := ⟨true, some 20⟩ }

set_option maxRecDepth 4000 in
/-- The note is left, and the lines are reviewed for the block alone. -/
theorem shadyOffice_watched :
    lenient.Extends watchful [watchVendors] ∧
      ∃ e e', shadyOffice.evaluate lenient .default = .ok e ∧
        shadyOffice.evaluate watchful .default = .ok e' ∧ e.decision.auditFlags = [] ∧
        e'.decision.auditFlags = [.vendorReliabilityWatch] ∧
        e'.decision.forcedBy = [.vendorPaymentBlock] ∧ e.RestrictedBy e' ∧ e.DecidedAs e' := by
  have hextends : lenient.Extends watchful [watchVendors] :=
    ⟨rfl, (List.perm_append_singleton watchVendors lenient.definitions).symm, by decide⟩
  have hplain : (shadyOffice.evaluate lenient .default).toOption.map
      (fun e => e.decision.auditFlags) = some [] := by
    decide +kernel
  have hwatched : (shadyOffice.evaluate watchful .default).toOption.map
      (fun e => (e.decision.auditFlags, e.decision.forcedBy)) =
        some ([.vendorReliabilityWatch], [.vendorPaymentBlock]) := by
    decide +kernel
  obtain ⟨e, he, hnone⟩ := exists_ok_of_map_eq hplain
  obtain ⟨e', he', hdecision⟩ := exists_ok_of_map_eq hwatched
  obtain ⟨hflags, hforced⟩ := Prod.mk.inj hdecision
  obtain ⟨hmore, hsame⟩ := (evaluate_of_extends shadyOffice .default hextends).2 e e' he he'
  exact ⟨hextends, e, e', he, he', hnone, hflags, hforced, hmore, hsame (by decide)⟩

end Snapshot
end Payables
