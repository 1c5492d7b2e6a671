import Payables.Proofs.Decision.Line
import Payables.Proofs.Evaluation.Injection

/-!
# Decisions follow the policy

What fires on a line is recorded as a list of identities, and the decisions are made from these
lists alone.  Where a policy defines every rule once, nothing is lost by that: the decision on a
line is the one that the policy declares for the definitions that fire on it, and the decision on
the invoice the one for its lines (`evaluateWithPrior_declared`).
-/

namespace Payables

open Guardrail (Lists)

/-- A line decided on as declared, given its score and the definitions that fire on it. -/
structure MatchResult.DecidedBy (scored : MatchResult) (fired : List GuardrailDefinition)
    (t : Threshold) (r : MatchResult) (d : Decision) : Prop where
  result : r = { scored with guardrails := r.guardrails }
  recorded : Lists r.guardrails fun g => ∃ x ∈ fired, x.id = g
  eligibility : d.eligibility = scored.declared fired t
  forcedBy : Lists d.forcedBy fun g =>
    ∃ x ∈ fired, x.id = g ∧ x.severity = (scored.declared fired t).heldBy

namespace Snapshot

variable {s : Snapshot} {prior : List MatchResult} {p : GuardrailPolicy} {t : Threshold}
  {e : Evaluation}

theorem LineEvaluated.decidedBy (h : (p.definitions.map GuardrailDefinition.id).Nodup)
    {l : InvoiceLine} {o : LineOutcome} {scored r : MatchResult} {d : Decision}
    (hline : s.LineEvaluated p t l o scored r d) :
    scored.DecidedBy (p.firing s.context l scored) t r d := by
  obtain ⟨tr, htr, hd⟩ := hline.decision
  have hguardrails : r.guardrails = (p.triggered s.context l scored).all := by rw [hline.result]
  rw [hguardrails] at htr
  have hgroups := GuardrailPolicy.partition_triggered h htr
  have hdeclared : d.eligibility = scored.declared (p.firing s.context l scored) t := by
    rw [hd, hline.result]
    exact MatchResult.decideWith_declared hgroups
  refine ⟨?_, ?_, hdeclared, ?_⟩
  · rw [hline.result]
  · rw [hguardrails]
    exact GuardrailPolicy.all_lists p s.context l scored
  · rw [← hdeclared, hd, MatchResult.decideWith_forcedBy]
    exact hgroups _

/-- Where a definition of a severity fires on some line. -/
def FiresOn (s : Snapshot) (p : GuardrailPolicy) (scored : List MatchResult) (severity : Severity)
    (g : Guardrail) : Prop :=
  ∃ (i : ℕ) (l : InvoiceLine) (r : MatchResult), s.lines[i]? = some l ∧ scored[i]? = some r ∧
    ∃ x ∈ p.firing s.context l r, x.id = g ∧ x.severity = severity

/-- The audit flags of an invoice are the rules of that severity that fire on some line. -/
theorem auditFlags_lists (h : (p.definitions.map GuardrailDefinition.id).Nodup)
    {scored : List MatchResult} {ds : List Decision} {score : InvoiceScore} {invoiceId : String} :
    Lists (InvoiceDecision.ofLines invoiceId (p.apply s scored) ds score p t).auditFlags
      (s.FiresOn p scored .audit) := by
  refine (Guardrail.lists_sorted _).congr fun g => ?_
  rw [List.mem_filter, List.mem_flatMap, beq_iff_eq]
  unfold FiresOn
  constructor
  · rintro ⟨⟨r, hr, hg⟩, hsev⟩
    obtain ⟨i, hi⟩ := List.getElem?_of_mem hr
    obtain ⟨l, sc, hl, hsc, rfl⟩ := List.getElem?_zipWith_eq_some.1 hi
    have hfires := ((GuardrailPolicy.all_lists p s.context l sc).mem_iff g).1 hg
    exact ⟨i, l, sc, hl, hsc, (GuardrailPolicy.firing_and_severity?_iff h).1 ⟨hfires, hsev⟩⟩
  · rintro ⟨i, l, sc, hl, hsc, hx⟩
    obtain ⟨hfires, hsev⟩ := (GuardrailPolicy.firing_and_severity?_iff h).2 hx
    have hg := ((GuardrailPolicy.all_lists p s.context l sc).mem_iff g).2 hfires
    have hi : (p.apply s scored)[i]?
        = some { sc with guardrails := (p.triggered s.context l sc).all } :=
      List.getElem?_zipWith_eq_some.2 ⟨l, sc, hl, hsc, rfl⟩
    exact ⟨⟨_, List.mem_of_getElem? hi, hg⟩, hsev⟩

/-- **Decisions are exactly the declared policy.**  Where the policy defines every rule once, every
line is decided on as declared for the definitions that fire on its scored result, the invoice as
declared for its lines, and what is put down as the cause of a decision or as an audit flag is
listed in order and without repetition. -/
theorem evaluateWithPrior_declared (hdefs : (p.definitions.map GuardrailDefinition.id).Nodup)
    (h : s.evaluateWithPrior prior p t = .ok e) :
    ∃ os scored, s.matchWithPrior prior = .ok os ∧
      scoreLines s.purchaseOrder (s.lines.zip os) = .ok scored ∧
      scored.length = s.lines.length ∧ e.results.length = s.lines.length ∧
      e.decisions.length = s.lines.length ∧
      (∀ (i : ℕ) (l : InvoiceLine) (sc : MatchResult), s.lines[i]? = some l →
        scored[i]? = some sc → ∃ r d, e.results[i]? = some r ∧ e.decisions[i]? = some d ∧
          sc.DecidedBy (p.firing s.context l sc) t r d) ∧
      e.decision.eligibility = Eligibility.ofLines (e.decisions.map Decision.eligibility) ∧
      Lists e.decision.forcedBy (fun g => ∃ d ∈ e.decisions, g ∈ d.forcedBy) ∧
      Lists e.decision.auditFlags (s.FiresOn p scored .audit) := by
  obtain ⟨hresults, hdecisions⟩ := length_of_evaluateWithPrior h
  obtain ⟨-, os, scored, hos, hscored, hdecide⟩ := evaluateWithPrior_eq_ok_iff.1 h
  obtain ⟨-, ds, -, rfl⟩ := decide_eq_ok_iff.1 hdecide
  have hlen : scored.length = s.lines.length := by
    rw [length_of_scoreLines hscored, List.length_zip, length_of_matchWithPrior hos, Nat.min_self]
  refine ⟨os, scored, hos, hscored, hlen, hresults, hdecisions, ?_, ?_, ?_, ?_⟩
  · intro i l sc hl hsc
    obtain ⟨o, sc', r, d, ho, hr, hd, hline⟩ := evaluateWithPrior_line h hos hl
    have hzip : (s.lines.zip os)[i]? = some (l, o) := List.getElem?_zip_eq_some.2 ⟨hl, ho⟩
    obtain ⟨sc'', hsc'', hscore⟩ := scoreLines_getElem? hscored hzip
    obtain rfl : sc'' = sc := Option.some.inj (hsc''.symm.trans hsc)
    obtain rfl : sc' = sc'' := Except.ok.inj (hline.score.symm.trans hscore)
    exact ⟨r, d, hr, hd, hline.decidedBy hdefs⟩
  · exact Eligibility.strictest_eq _
  · exact (Guardrail.lists_sorted _).congr fun g => List.mem_flatMap
  · exact auditFlags_lists hdefs

/-- A policy that has only one rule, and sends invoices of blocked vendors to review. -/
def lenient : GuardrailPolicy where
  definitions := [⟨.vendorPaymentBlock, .soft, "the vendor is blocked"⟩]
  limits := {}

/-- The office invoice of a blocked vendor. -/
def blockedOffice : Snapshot := { office with vendor := { paymentBlock := true } }

/-- The score of its sundries, which are what the line of the order that they name asks for. -/
def sundriesScored : MatchResult where
  invoiceId := "I-2"
  lineNum := 1
  poLine := some ⟨"P-2", 20⟩
  strategy := some .keyBased
  rawConfidence := 100
  confidence := 100
  status := .matched
  varianceKind := .none
  variancePct := Binary64.zero
  guardrails := []

set_option maxRecDepth 4000 in
/-- The one rule of the policy fires on the sundries, which would be posted without it: the block is
recorded, and the line and the invoice are sent to review for it. -/
theorem blockedOffice_declared :
    ∃ (e : Evaluation) (r : MatchResult) (d : Decision),
      blockedOffice.evaluate lenient .default = .ok e ∧ e.results[1]? = some r ∧
      e.decisions[1]? = some d ∧
      lenient.firing blockedOffice.context (officeLine 1 "sundries" (some 20)) sundriesScored =
        lenient.definitions ∧
      sundriesScored.DecidedBy lenient.definitions .default r d ∧
      r = { sundriesScored with guardrails := [.vendorPaymentBlock] } ∧
      d = ⟨1, .manualReview, 100, .high, 95, [.vendorPaymentBlock], [.softGuardrail]⟩ ∧
      e.decision = ⟨"I-2", .manualReview, some 50, 95, [.vendorPaymentBlock], []⟩ ∧
      sundriesScored.declared [] .default = .autopilot := by
  have hpinned : (blockedOffice.evaluate lenient .default).toOption.map
      (fun e => (e.results[1]?, e.decisions[1]?, e.decision)) =
      some (some { sundriesScored with guardrails := [.vendorPaymentBlock] },
        some ⟨1, .manualReview, 100, .high, 95, [.vendorPaymentBlock], [.softGuardrail]⟩,
        ⟨"I-2", .manualReview, some 50, 95, [.vendorPaymentBlock], []⟩) := by
    decide +kernel
  have hscore : blockedOffice.matchLines.toOption.map (fun os =>
      (scoreLines blockedOffice.purchaseOrder (blockedOffice.lines.zip os)).toOption.bind (·[1]?)) =
      some (some sundriesScored) := by
    decide +kernel
  obtain ⟨e, he, hpinned⟩ := exists_ok_of_map_eq hpinned
  obtain ⟨os, scored, hos, hscored, -, -, -, hlines, -⟩ := evaluateWithPrior_declared (by decide) he
  obtain ⟨os', hos', hscore⟩ := exists_ok_of_map_eq hscore
  obtain rfl : os' = os := Except.ok.inj (hos'.symm.trans hos)
  rw [hscored] at hscore
  obtain ⟨r, d, hr, hd, hline⟩ := hlines 1 _ sundriesScored rfl hscore
  simp only [hr, hd, Prod.mk.injEq, Option.some.injEq] at hpinned
  obtain ⟨hresult, hdecision, hinvoice⟩ := hpinned
  exact ⟨e, r, d, he, hr, hd, rfl, hline, hresult, hdecision, hinvoice, by decide⟩

end Snapshot
end Payables
