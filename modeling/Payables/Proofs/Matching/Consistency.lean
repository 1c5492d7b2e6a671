import Payables.Matching.Consistency
import Payables.Proofs.Binary64.Arithmetic
import Payables.Proofs.Document.Validation

/-!
# Consistent results

`MatchResult.Consistent` says in one piece what the checks of a result ask for, and
`inconsistency?_eq_none_iff` that they find nothing exactly where it holds.
-/

namespace Payables.MatchResult

/-- A result that agrees with itself. -/
structure Consistent (r : MatchResult) : Prop where
  raw_le : r.rawConfidence ≤ 100
  confidence_le : r.confidence ≤ r.rawConfidence
  isFinite : r.variancePct.isFinite = true
  kind : r.varianceKind = .none → r.variancePct.eqv Binary64.zero = true
  resolved : r.status.isResolved = true → r.poLine.isSome = true ∧ r.strategy.isSome = true
  unresolved : r.status.isResolved = false → r.poLine = none ∧ r.strategy = none
  tolerance : ∀ strategy, r.status = .matched → r.strategy = some strategy →
    strategy.tolerance.lt r.variancePct.abs = false

/-- What the last check asks for, by status. -/
theorem claim_check_eq_none_iff {r : MatchResult} :
    (if r.status.isResolved then
      match r.poLine, r.strategy with
      | some _, some s =>
        if r.status = .matched && s.tolerance.lt r.variancePct.abs then
          some (Inconsistency.matchedBeyondTolerance r.variancePct s)
        else none
      | _, _ => some (.resolvedWithoutClaim r.status)
    else if r.poLine.isSome || r.strategy.isSome then some (.unresolvedWithClaim r.status)
    else none) = none ↔
      (r.status.isResolved = true → r.poLine.isSome = true ∧ r.strategy.isSome = true) ∧
      (r.status.isResolved = false → r.poLine = none ∧ r.strategy = none) ∧
      (∀ strategy, r.status = .matched → r.strategy = some strategy →
        strategy.tolerance.lt r.variancePct.abs = false) := by
  cases hres : r.status.isResolved with
  | true =>
    cases hp : r.poLine <;> cases hs : r.strategy <;> simp
  | false =>
    have hne : r.status ≠ .matched := by
      intro h
      rw [h] at hres
      cases hres
    cases hp : r.poLine <;> cases hs : r.strategy <;> simp [hne]

/-- The checks find nothing exactly on consistent results. -/
theorem inconsistency?_eq_none_iff {r : MatchResult} : r.inconsistency? = none ↔ r.Consistent := by
  have hhundred : ¬(decide (100 < r.confidence) || decide (100 < r.rawConfidence)) = true ↔
      r.confidence ≤ 100 ∧ r.rawConfidence ≤ 100 := by
    simp only [Bool.or_eq_true, decide_eq_true_eq, not_or, UInt8.not_lt]
  have hkind : ¬(decide (r.varianceKind = .none) && !r.variancePct.eqv Binary64.zero) = true ↔
      (r.varianceKind = .none → r.variancePct.eqv Binary64.zero = true) := by
    simp only [Bool.and_eq_true, decide_eq_true_eq, not_and, Bool.not_eq_true', Bool.not_eq_false]
  have hfinite : ¬(!r.variancePct.isFinite) = true ↔ r.variancePct.isFinite = true := by simp
  rw [inconsistency?, check_eq_none_iff, check_eq_none_iff, check_eq_none_iff, check_eq_none_iff,
    hhundred, hkind, hfinite, UInt8.not_lt]
  have hclaim := claim_check_eq_none_iff (r := r)
  constructor
  · rintro ⟨⟨-, hraw⟩, hconf, hfin, hnone, hlast⟩
    obtain ⟨hres, hunres, htol⟩ := hclaim.1 hlast
    exact ⟨hraw, hconf, hfin, hnone, hres, hunres, htol⟩
  · intro h
    have hconf := UInt8.le_trans h.confidence_le h.raw_le
    exact ⟨⟨hconf, h.raw_le⟩, h.confidence_le, h.isFinite, h.kind,
      hclaim.2 ⟨h.resolved, h.unresolved, h.tolerance⟩⟩

/-! ## What consistency says -/

namespace Consistent

variable {r : MatchResult}

theorem resolved_iff (h : r.Consistent) :
    r.status.isResolved = true ↔ r.poLine.isSome = true ∧ r.strategy.isSome = true := by
  refine ⟨h.resolved, ?_⟩
  rintro ⟨hline, -⟩
  by_contra hres
  rw [(h.unresolved (by simpa using hres)).1] at hline
  cases hline

theorem unresolved_iff (h : r.Consistent) :
    r.status.isResolved = false ↔ r.poLine = none ∧ r.strategy = none := by
  refine ⟨h.unresolved, ?_⟩
  rintro ⟨hline, -⟩
  by_contra hres
  have := (h.resolved (by simpa using hres)).1
  rw [hline] at this
  cases this

/-- A consistent result carries a claim in full or not at all. -/
theorem wholeClaim (h : r.Consistent) : r.poLine.isSome = r.strategy.isSome := by
  cases hres : r.status.isResolved with
  | true =>
    obtain ⟨hline, hstrategy⟩ := h.resolved hres
    rw [hline, hstrategy]
  | false =>
    obtain ⟨hline, hstrategy⟩ := h.unresolved hres
    rw [hline, hstrategy]
    rfl

/-- The guardrails of a result have no part in its consistency. -/
theorem record (h : r.Consistent) (guardrails : List Guardrail) :
    ({ r with guardrails := guardrails } : MatchResult).Consistent :=
  ⟨h.raw_le, h.confidence_le, h.isFinite, h.kind, h.resolved, h.unresolved, h.tolerance⟩

/-- A clean match is within the tolerance of its strategy. -/
theorem within (h : r.Consistent) (hm : r.status = .matched) :
    ∃ strategy, r.strategy = some strategy ∧
      r.variancePct.abs.le strategy.tolerance = true := by
  obtain ⟨-, hsome⟩ := h.resolved (by rw [hm]; rfl)
  obtain ⟨strategy, hs⟩ := Option.isSome_iff_exists.1 hsome
  refine ⟨strategy, hs, Binary64.le_of_lt_eq_false ?_ ?_ (h.tolerance strategy hm hs)⟩
  · have hfinite := h.isFinite
    cases hpct : r.variancePct with
    | nan =>
      rw [hpct] at hfinite
      cases hfinite
    | infinite s => rfl
    | finite s m => rfl
  · cases strategy <;> exact Binary64.ofInt_isNaN _

end Consistent

end Payables.MatchResult
