import Payables.Proofs.Evaluation.Autopilot
import Payables.Proofs.Evaluation.Errors

/-!
# Weak evidence is reviewed

Nothing in a decision asks for the strategy of a match.  A posted line keeps a confidence of 85 or
more, and no strategy gives more than its weight, so only the two strongest are left; both tolerate
five percent, and a penalty that leaves 85 has been taken for less than two.

* `LineEvaluated.strong` — a posted line is matched by its key or its material, within the
  tolerance.
* `evaluate_weak_reviewed` — so no other line posts, and no invoice with such a line, whatever the
  rules and the threshold.
-/

namespace Payables

open Binary64

/-- Only the two strongest strategies reach the band of lines that may post. -/
theorem Strategy.eq_of_weight_ge {s : Strategy} (h : 85 ≤ s.weight) :
    s = .keyBased ∨ s = .vendorMaterial := by
  cases s with
  | keyBased => exact Or.inl rfl
  | vendorMaterial => exact Or.inr rfl
  | semantic | qtyPrice | grXref | elimination => exact absurd h (by decide)

/-- Both tolerate five percent. -/
theorem Strategy.tolerance_of_strong {s : Strategy} (h : s = .keyBased ∨ s = .vendorMaterial) :
    s.tolerance = finite false 5 := by
  have hfive : Binary64.ofNat 5 = finite false 5 := ofNat_eq_finite (n := 5) (by norm_num)
  rcases h with rfl | rfl <;> exact hfive

/-- Evidence that no line posts on: a strategy that compares or guesses, or a status that leaves
something open. -/
def MatchResult.Weak (r : MatchResult) : Prop :=
  (∃ strategy, r.strategy = some strategy ∧
      (strategy = .semantic ∨ strategy = .qtyPrice ∨ strategy = .grXref ∨
        strategy = .elimination)) ∨
    (r.status = .shortfall ∨ r.status = .exception ∨ r.status = .unmatched ∨
      r.status = .unplanned)

/-- Evidence that a line may post on: its key or its material, with a clean variance. -/
def MatchResult.Strong (r : MatchResult) : Prop :=
  r.status = .matched ∧ (r.strategy = some .keyBased ∨ r.strategy = some .vendorMaterial)

theorem MatchResult.Weak.not_strong {r : MatchResult} (h : r.Weak) : ¬r.Strong := by
  rintro ⟨hstatus, hstrategy⟩
  rcases h with ⟨strategy, heq, hweak⟩ | hopen
  · rw [heq, Option.some.injEq, Option.some.injEq] at hstrategy
    rcases hstrategy with rfl | rfl <;> simp at hweak
  · simp [hstatus] at hopen

namespace Snapshot

variable {s : Snapshot} {p : GuardrailPolicy} {t : Threshold} {e : Evaluation}

/-- **A posted line rests on strong evidence.** -/
theorem LineEvaluated.strong (hv : s.Valid) {os : List LineOutcome} (hos : s.matchLines = .ok os)
    {l : InvoiceLine} {o : LineOutcome} {scored r : MatchResult} {d : Decision} (ho : o ∈ os)
    (h : s.LineEvaluated p t l o scored r d) (hd : d.eligibility = .autopilot) : r.Strong := by
  obtain ⟨a, po, q, rfl, -, -, rfl⟩ := h.exists_assigned hd
  obtain ⟨tr, -, rfl⟩ := h.decision
  obtain ⟨-, -, h85, -, -⟩ := MatchResult.decideWith_eligibility_eq_autopilot_iff.1 hd
  have hcons := h.consistent
  have hweight := (exists_line_of_assigned hv hos ho).1
  rw [h.result] at hcons h85 ⊢
  -- what is left of the confidence is at most the weight of the strategy
  have hstrategy : a.strategy = .keyBased ∨ a.strategy = .vendorMaterial :=
    Strategy.eq_of_weight_ge (UInt8.le_trans h85 (UInt8.le_trans hcons.confidence_le hweight))
  obtain ⟨sign, m, hpct, hm⟩ :=
    Variance.magnitude_lt_of_confidence hcons.raw_le h85 hcons.isFinite
  have hclean : (Variance.measure l q).pct.abs.le a.strategy.tolerance = true := by
    have hfive : m ≤ 5 := by linarith
    rw [show (Variance.measure l q).pct = finite sign m from hpct,
      Strategy.tolerance_of_strong hstrategy, Binary64.abs, le_finite]
    simpa [Binary64.value] using hfive
  refine ⟨Variance.classify_eq_matched_iff.2 hclean, ?_⟩
  rcases hstrategy with heq | heq
  · exact Or.inl (congrArg some heq)
  · exact Or.inr (congrArg some heq)

/-- An invoice posts only where all of its lines do. -/
theorem invoice_not_autopilot (h : s.evaluate p t = .ok e) {d : Decision} (hd : d ∈ e.decisions)
    (hheld : d.eligibility ≠ .autopilot) : e.decision.eligibility ≠ .autopilot := by
  intro hauto
  rw [(invoice_of_evaluateWithPrior h).2] at hauto
  change Eligibility.strictest _ = _ at hauto
  rw [Eligibility.strictest_eq_autopilot_iff] at hauto
  exact hheld (hauto.2 _ (List.mem_map_of_mem hd))

/-- **Weak evidence never posts automatically.**  Under any rules and any threshold, every line that
posts is matched by its key or its material, and every line that is not is held back and holds its
invoice back. -/
theorem evaluate_weak_reviewed (h : s.evaluate p t = .ok e) :
    (∀ (i : ℕ) (r : MatchResult) (d : Decision), e.results[i]? = some r →
        e.decisions[i]? = some d → d.eligibility = .autopilot →
        r.status = .matched ∧ (r.strategy = some .keyBased ∨ r.strategy = some .vendorMaterial)) ∧
      ∀ (i : ℕ) (r : MatchResult), e.results[i]? = some r → r.Weak →
        (∃ d, e.decisions[i]? = some d ∧ d.eligibility ≠ .autopilot) ∧
          e.decision.eligibility ≠ .autopilot := by
  obtain ⟨hv, os, hos⟩ := exists_outcomes h
  have hstrong : ∀ (i : ℕ) (r : MatchResult) (d : Decision), e.results[i]? = some r →
      e.decisions[i]? = some d → d.eligibility = .autopilot → r.Strong := by
    intro i r d hr hd hauto
    obtain ⟨l, -, -, -, hl, -, -⟩ := exists_line_of_result h hos hr
    obtain ⟨o, scored, r', d', ho, hr', hd', hline⟩ := evaluateWithPrior_line h hos hl
    obtain rfl : r' = r := Option.some.inj (hr'.symm.trans hr)
    obtain rfl : d' = d := Option.some.inj (hd'.symm.trans hd)
    exact hline.strong hv hos (List.mem_of_getElem? ho) hauto
  refine ⟨hstrong, ?_⟩
  intro i r hr hweak
  obtain ⟨d, hd⟩ : ∃ d, e.decisions[i]? = some d := by
    obtain ⟨l, -, -, -, hl, -, -⟩ := exists_line_of_result h hos hr
    obtain ⟨-, -, -, d, -, -, hd, -⟩ := evaluateWithPrior_line h hos hl
    exact ⟨d, hd⟩
  have hheld : d.eligibility ≠ .autopilot := by
    intro hauto
    exact hweak.not_strong (hstrong i r d hr hd hauto)
  exact ⟨⟨d, hd, hheld⟩, invoice_not_autopilot h (List.mem_of_getElem? hd) hheld⟩

/-- No rules at all. -/
def withoutRules : GuardrailPolicy where
  definitions := []
  limits := {}

set_option maxRecDepth 4000 in
/-- The office invoice under no rules and the lowest threshold: its first line is only left over, so
the invoice is reviewed. -/
theorem office_reviewed :
    ∃ e r, office.evaluate withoutRules ⟨50, by decide, by decide⟩ = .ok e ∧
      e.results[0]? = some r ∧ r.strategy = some .elimination ∧
      e.decision.eligibility ≠ .autopilot := by
  have hfirst : (office.evaluate withoutRules ⟨50, by decide, by decide⟩).toOption.map
      (fun e => e.results[0]?.bind MatchResult.strategy) = some (some .elimination) := by
    decide +kernel
  obtain ⟨e, he, hresult⟩ := exists_ok_of_map_eq hfirst
  obtain ⟨r, hr, hstrategy⟩ := Option.bind_eq_some_iff.1 hresult
  have hweak : r.Weak := Or.inl ⟨_, hstrategy, Or.inr (Or.inr (Or.inr rfl))⟩
  exact ⟨e, r, he, hr, hstrategy, ((evaluate_weak_reviewed he).2 0 r hr hweak).2⟩

end Snapshot
end Payables
