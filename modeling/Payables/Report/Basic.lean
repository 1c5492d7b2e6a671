/-
# Reports

What an evaluation hands on: each line's result beside its decision, the decision on the invoice,
and the purchase orders that it might belong to.
-/
import Payables.Evaluation
import Payables.Ranking
import Payables.Calendar.Instant

namespace Payables

/-- A line's result with the decision on it. -/
structure LineReport where
  result : MatchResult
  decision : Decision
  deriving DecidableEq, Repr

/-- The report on an invoice. -/
structure Report where
  invoiceId : String
  lines : List LineReport
  decision : InvoiceDecision
  score : InvoiceScore
  auditFlags : List Guardrail
  candidates : List PoCandidate
  evaluatedAt : Instant
  deriving DecidableEq, Repr

namespace Report

/-- The report of an evaluation. -/
def ofEvaluation (e : Evaluation) (candidates : List PoCandidate) (stamp : Instant) : Report where
  invoiceId := e.decision.invoiceId
  lines := List.zipWith LineReport.mk e.results e.decisions
  decision := e.decision
  score := e.score
  auditFlags := e.decision.auditFlags
  candidates := candidates
  evaluatedAt := stamp

/-- The band of the invoice, if it has a confidence. -/
def band (r : Report) : Option ConfidenceBand :=
  r.score.confidence.map ConfidenceBand.ofConfidence

end Report

/-- Evaluate an invoice and report on it, with the best candidates of a pool. -/
def Snapshot.report (s : Snapshot) (pool : List PurchaseOrder) (p : GuardrailPolicy)
    (threshold : Threshold) (limit : Nat) (stamp : Instant) : Except EvaluationError Report := do
  let e ← s.evaluate p threshold
  .ok (Report.ofEvaluation e (s.rankCandidates pool limit) stamp)

end Payables
