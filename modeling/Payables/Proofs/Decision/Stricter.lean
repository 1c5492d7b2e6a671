import Payables.Proofs.Decision.Line
import Payables.Proofs.Related

/-!
# Stricter decisions

Posting restricts a line least and blocking most.  In this order an invoice is held back at least as
much when each of its lines is (`Eligibility.strictest_mono`), and a line when more guardrails fire
on it or when the threshold is higher (`MatchResult.decideWith_mono`).

The threshold has no other effect: `Decision.Tightens` says what a decision has in common with the
one under a lower threshold (`MatchResult.decideWith_tightens`).
-/

namespace Payables

/-! ## The order -/

namespace Eligibility

/-- At most as restrictive. -/
instance : Preorder Eligibility := Preorder.lift rank

instance (a b : Eligibility) : Decidable (a ≤ b) := inferInstanceAs (Decidable (a.rank ≤ b.rank))

variable {a b : Eligibility} {es es' : List Eligibility}

/-- A decision is at least as restrictive where it blocks what was blocked and posts only what was
posted. -/
theorem le_iff : a ≤ b ↔ (a = blocked → b = blocked) ∧ (b = autopilot → a = autopilot) := by
  cases a <;> cases b <;> decide

/-- Only a blocked line is put down to other guardrails than the others. -/
theorem heldBy_eq_of_blocked_iff (h : a = blocked ↔ b = blocked) : a.heldBy = b.heldBy := by
  cases a <;> cases b <;> simp_all [heldBy]

/-- **An invoice is held back at least as much when each of its lines is.** -/
theorem strictest_mono (h : List.Forall₂ (· ≤ ·) es es') : strictest es ≤ strictest es' := by
  rw [le_iff, strictest_eq_blocked_iff, strictest_eq_blocked_iff, strictest_eq_autopilot_iff,
    strictest_eq_autopilot_iff]
  constructor
  · intro hblocked
    obtain ⟨x, hx, hle⟩ := exists_of_related h.flip hblocked
    rwa [(le_iff.1 hle).1 rfl] at hx
  · rintro ⟨hne, hauto⟩
    refine ⟨?_, ?_⟩
    · rintro rfl
      cases h
      exact hne rfl
    · intro x hx
      obtain ⟨y, hy, hle⟩ := exists_of_related h.flip hx
      exact (le_iff.1 hle).2 (hauto y hy)

end Eligibility

/-! ## One line -/

namespace MatchResult

variable {r : MatchResult} {tr tr' : TriggeredGuardrails} {t t' : Threshold}

/-- **A line is held back at least as much** when more guardrails have fired on it and the threshold
is no lower. -/
theorem decideWith_mono (hhard : tr.hard ⊆ tr'.hard) (hsoft : tr.soft ⊆ tr'.soft)
    (ht : t.percent ≤ t'.percent) :
    (r.decideWith tr t).eligibility ≤ (r.decideWith tr' t').eligibility := by
  rw [Eligibility.le_iff, decideWith_eligibility_eq_blocked_iff,
    decideWith_eligibility_eq_blocked_iff, decideWith_eligibility_eq_autopilot_iff,
    decideWith_eligibility_eq_autopilot_iff]
  constructor
  · intro hne hnil
    rw [hnil] at hhard
    exact hne (List.eq_nil_of_subset_nil hhard)
  · rintro ⟨hnil, hconf, hband, hnone, hstatus⟩
    rw [hnil] at hhard
    rw [hnone] at hsoft
    exact ⟨List.eq_nil_of_subset_nil hhard, ht.trans hconf, hband,
      List.eq_nil_of_subset_nil hsoft, hstatus⟩

end MatchResult

/-! ## A higher threshold -/

/-- A decision beside the one under a higher threshold. -/
structure Decision.Tightens (d d' : Decision) : Prop where
  lineNum : d.lineNum = d'.lineNum
  confidence : d.confidence = d'.confidence
  band : d.band = d'.band
  forcedBy : d.forcedBy = d'.forcedBy
  eligibility : d.eligibility ≤ d'.eligibility
  reviewReasons : d'.reviewReasons = d.reviewReasons ∨
    d'.reviewReasons = .belowThreshold :: d.reviewReasons

namespace MatchResult

variable {r : MatchResult} {t t' : Threshold}

/-- A higher threshold adds at most one reason to review a line. -/
theorem reviewReasons_tightens (r : MatchResult) (tr : TriggeredGuardrails)
    (ht : t.percent ≤ t'.percent) :
    r.reviewReasons tr t' = r.reviewReasons tr t ∨
      r.reviewReasons tr t' = .belowThreshold :: r.reviewReasons tr t := by
  unfold reviewReasons
  by_cases hbelow : r.confidence.toNat < t.percent
  · rw [if_pos hbelow, if_pos (hbelow.trans_le ht)]
    exact Or.inl rfl
  · rw [if_neg hbelow]
    split
    · exact Or.inr rfl
    · exact Or.inl rfl

/-- **A higher threshold only tightens a decision.** -/
theorem decideWith_tightens (r : MatchResult) (tr : TriggeredGuardrails)
    (ht : t.percent ≤ t'.percent) :
    (r.decideWith tr t).Tightens (r.decideWith tr t') where
  lineNum := rfl
  confidence := rfl
  band := rfl
  forcedBy := by
    -- whether a line is blocked does not depend on the threshold
    have hblocked : (r.decideWith tr t).eligibility = .blocked ↔
        (r.decideWith tr t').eligibility = .blocked := by
      rw [decideWith_eligibility_eq_blocked_iff, decideWith_eligibility_eq_blocked_iff]
    rw [decideWith_forcedBy, decideWith_forcedBy, Eligibility.heldBy_eq_of_blocked_iff hblocked]
  eligibility := decideWith_mono (List.Subset.refl _) (List.Subset.refl _) ht
  reviewReasons := reviewReasons_tightens r tr ht

end MatchResult
end Payables
