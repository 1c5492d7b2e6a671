import Payables.Proofs.Evaluation.Autopilot

/-!
# Rules that are defined twice

A policy may define one rule several times, with different severities.  Every definition that fires
is grouped under its own severity, but only the rule is recorded, and once it is read back the first
definition of the rule speaks for all of them.

* `LineEvaluated.blocked_iff` — a line is blocked exactly where a rule fires whose first definition
  is hard.
* `evaluate_by_first_definition` — this for every line of an evaluation, and exactly when the groups
  are read back as they were recorded.
* `posted_under_hard_definition` — a hard definition that fires does not block a line where a milder
  definition of the same rule comes first.
-/

namespace Payables

/-- Whether a rule fires does not depend on what has been recorded. -/
theorem GuardrailPolicy.firing_record (p : GuardrailPolicy) (ctx : InvoiceContext) (l : InvoiceLine)
    (r : MatchResult) (ids : List Guardrail) :
    p.firing ctx l { r with guardrails := ids } = p.firing ctx l r := by
  unfold firing
  refine List.filter_congr fun x _ => ?_
  cases x.id <;> rfl

namespace Snapshot

variable {s : Snapshot} {p : GuardrailPolicy} {t : Threshold}

/-- **A line is blocked** exactly where a rule fires whose first definition is hard. -/
theorem LineEvaluated.blocked_iff {l : InvoiceLine} {o : LineOutcome} {scored r : MatchResult}
    {d : Decision} (h : s.LineEvaluated p t l o scored r d) :
    d.eligibility = .blocked ↔
      ∃ x ∈ p.firing s.context l r, p.severity? x.id = some .hard := by
  obtain ⟨tr, htr, rfl⟩ := h.decision
  have hrecorded : r.guardrails = (p.triggered s.context l scored).all := by rw [h.result]
  have hfiring : p.firing s.context l r = p.firing s.context l scored := by
    rw [h.result, GuardrailPolicy.firing_record]
  rw [hrecorded] at htr
  have hhard := GuardrailPolicy.partition_triggered_lists htr .hard
  rw [MatchResult.decideWith_eligibility_eq_blocked_iff, hfiring,
    show tr.hard = tr.group .hard from rfl, Ne, hhard.eq_nil_iff]
  constructor
  · intro hne
    push Not at hne
    obtain ⟨_, ⟨x, hx, rfl⟩, hsev⟩ := hne
    exact ⟨x, hx, hsev⟩
  · rintro ⟨x, hx, hsev⟩ hnone
    exact hnone x.id ⟨⟨x, hx, rfl⟩, hsev⟩

/-- **The first definition of a rule speaks for all of them.**  What is recorded of a line can
always be read back, and gives the groups that it came from exactly where every definition that
fires has the severity of the first one of its rule.  A line of an evaluation is blocked exactly
where a rule fires whose first definition is hard; so it is by every hard definition that fires
without a milder one before it. -/
theorem evaluate_by_first_definition (p : GuardrailPolicy) :
    (∀ (ctx : InvoiceContext) (l : InvoiceLine) (r : MatchResult),
      ∃ tr, p.partition (p.triggered ctx l r).all = .ok tr ∧
        (tr = p.triggered ctx l r ↔
          ∀ x ∈ p.firing ctx l r, p.severity? x.id = some x.severity)) ∧
      ∀ (s : Snapshot) (t : Threshold) (e : Evaluation), s.evaluate p t = .ok e →
        ∀ (i : ℕ) (l : InvoiceLine) (r : MatchResult) (d : Decision), s.lines[i]? = some l →
          e.results[i]? = some r → e.decisions[i]? = some d →
          (d.eligibility = .blocked ↔
            ∃ x ∈ p.firing s.context l r, p.severity? x.id = some .hard) ∧
          ∀ x ∈ p.firing s.context l r, x.severity = .hard →
            p.severity? x.id = some x.severity → d.eligibility = .blocked := by
  constructor
  · intro ctx l r
    obtain ⟨tr, htr⟩ := p.exists_partition_triggered ctx l r
    exact ⟨tr, htr, GuardrailPolicy.partition_triggered_eq_iff htr⟩
  · intro s t e he i l r d hl hr hd
    obtain ⟨o, scored, r', hr', hline⟩ := exists_line_of_decision he hl hd
    obtain rfl : r' = r := Option.some.inj (hr'.symm.trans hr)
    refine ⟨hline.blocked_iff, ?_⟩
    intro x hx hhard hfirst
    exact hline.blocked_iff.2 ⟨x, hx, hhard ▸ hfirst⟩

/-! ## A payment block that is defined twice -/

/-- The policy that has a payment block twice. -/
def blockTwice (first second : Severity) : GuardrailPolicy where
  definitions := [⟨.vendorPaymentBlock, first, "Vendor has an active payment block"⟩,
    ⟨.vendorPaymentBlock, second, "Vendor has an active payment block"⟩]
  limits := {}

/-- The line of paper, as ordered, from a vendor with a payment block. -/
def blockedPaper : Snapshot :=
  { paper (Decimal.ofInt 1) (Decimal.ofInt 1) with vendor := { paymentBlock := true } }

theorem mem_firing_blockTwice (first second : Severity) (l : InvoiceLine) (r : MatchResult)
    {x : GuardrailDefinition} (hx : x ∈ (blockTwice first second).definitions) :
    x ∈ (blockTwice first second).firing blockedPaper.context l r := by
  refine List.mem_filter.2 ⟨hx, ?_⟩
  simp only [blockTwice, List.mem_cons, List.not_mem_nil, or_false] at hx
  rcases hx with rfl | rfl <;> rfl

set_option maxRecDepth 4000 in
/-- The line is blocked where the hard definition comes first. -/
theorem blocked_by_first_definition :
    ∃ e r d, blockedPaper.evaluate (blockTwice .hard .audit) .default = .ok e ∧
      e.results[0]? = some r ∧ e.decisions[0]? = some d ∧ d.eligibility = .blocked := by
  have hsome : (firstEligibility
      (blockedPaper.evaluate (blockTwice .hard .audit) .default)).isSome = true := by
    decide +kernel
  obtain ⟨x, hx⟩ := Option.isSome_iff_exists.1 hsome
  obtain ⟨e, d, he, hd, -⟩ := firstEligibility_eq_some_iff.1 hx
  obtain ⟨-, -, r, hr, -⟩ := exists_line_of_decision he rfl hd
  obtain ⟨-, hblocked⟩ :=
    (evaluate_by_first_definition (blockTwice .hard .audit)).2 _ _ _ he 0 _ _ _ rfl hr hd
  exact ⟨e, r, d, he, hr, hd,
    hblocked ⟨.vendorPaymentBlock, .hard, "Vendor has an active payment block"⟩
      (mem_firing_blockTwice _ _ _ _ List.mem_cons_self) rfl rfl⟩

set_option maxRecDepth 4000 in
/-- **A hard definition that fires does not block** where the audit definition of the same rule
comes first: what was hard is read back as a note, and the line posts. -/
theorem posted_under_hard_definition :
    ∃ e l r d, blockedPaper.evaluate (blockTwice .audit .hard) .default = .ok e ∧
      blockedPaper.lines[0]? = some l ∧ e.results[0]? = some r ∧ e.decisions[0]? = some d ∧
      (∃ x ∈ (blockTwice .audit .hard).firing blockedPaper.context l r, x.severity = .hard) ∧
      (blockTwice .audit .hard).triggered blockedPaper.context l r =
        { hard := [.vendorPaymentBlock], audit := [.vendorPaymentBlock] } ∧
      (blockTwice .audit .hard).partition
          ((blockTwice .audit .hard).triggered blockedPaper.context l r).all =
        .ok { audit := [.vendorPaymentBlock] } ∧
      d.eligibility = .autopilot := by
  have hauto : firstEligibility (blockedPaper.evaluate (blockTwice .audit .hard) .default) =
      some .autopilot := by
    decide +kernel
  obtain ⟨e, d, he, hd, hposted⟩ := firstEligibility_eq_some_iff.1 hauto
  obtain ⟨-, -, r, hr, -⟩ := exists_line_of_decision he rfl hd
  refine ⟨e, _, r, d, he, rfl, hr, hd, ?_, rfl, rfl, hposted⟩
  exact ⟨_, mem_firing_blockTwice _ _ _ _ (List.mem_cons_of_mem _ List.mem_cons_self), rfl⟩

end Snapshot
end Payables
