/-
# Consistent match results

A match result has to agree with itself before anything is decided from it: confidences in range,
a finite variance that says what it is measured on, and a purchase order line exactly where the
status says that there is one.
-/
import Payables.Error

namespace Payables.MatchResult

/-- Refuse a result with the first thing that is wrong with it, if there is any. -/
def inconsistency? (r : MatchResult) : Option Inconsistency :=
  if 100 < r.confidence || 100 < r.rawConfidence then some .confidenceAboveHundred
  else if r.rawConfidence < r.confidence then some .confidenceAboveRaw
  else if !r.variancePct.isFinite then some .varianceNotFinite
  else if r.varianceKind = .none && !r.variancePct.eqv Binary64.zero then
    some .varianceWithoutKind
  else if r.status.isResolved then
    match r.poLine, r.strategy with
    | some _, some s =>
      if r.status = .matched && s.tolerance.lt r.variancePct.abs then
        some (.matchedBeyondTolerance r.variancePct s)
      else none
    | _, _ => some (.resolvedWithoutClaim r.status)
  else if r.poLine.isSome || r.strategy.isSome then some (.unresolvedWithClaim r.status)
  else none

/-- Accept a consistent result. -/
def validate (r : MatchResult) : Except EvaluationError Unit :=
  match r.inconsistency? with
  | some reason => .error (.inconsistentMatch r.lineNum reason)
  | none => .ok ()

end Payables.MatchResult
