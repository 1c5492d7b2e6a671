/-
# Evaluation

An invoice is validated, matched, scored, checked by the guardrails and decided on, in that order.
-/
import Payables.Document.Validation
import Payables.Decision.Basic

namespace Payables

/-- The evaluation of an invoice; results and decisions stand in the order of its lines. -/
structure Evaluation where
  results : List MatchResult
  decisions : List Decision
  decision : InvoiceDecision
  score : InvoiceScore
  deriving DecidableEq, Repr

namespace Snapshot

/-- A purchase order line is one of the snapshot's own. -/
def knowsLine (s : Snapshot) (ref : PoLineRef) : Bool :=
  match s.purchaseOrder with
  | some po => po.poNumber == ref.poNumber && (po.line? ref.lineNum).isSome
  | none => false

/-- Accept results whose purchase order lines are the snapshot's own. -/
def checkReferences (s : Snapshot) : List MatchResult → Except EvaluationError Unit
  | [] => .ok ()
  | r :: rest =>
    match r.poLine with
    | none => s.checkReferences rest
    | some ref =>
      if s.knowsLine ref then s.checkReferences rest
      else .error (.unknownPoLine r.lineNum ref)

/-- Decide on an invoice, given results for its lines. -/
def decide (s : Snapshot) (results : List MatchResult) (p : GuardrailPolicy)
    (threshold : Threshold) : Except EvaluationError Evaluation := do
  s.checkReferences results
  let decisions ← decideLines p threshold results
  let score := InvoiceScore.ofResults results
  .ok
    { results := results
      decisions := decisions
      decision :=
        InvoiceDecision.ofLines s.header.invoiceId results decisions score p threshold
      score := score }

/-- Evaluate an invoice with the results of an earlier run kept. -/
def evaluateWithPrior (s : Snapshot) (prior : List MatchResult) (p : GuardrailPolicy)
    (threshold : Threshold) : Except EvaluationError Evaluation := do
  s.validate
  let outcomes ← s.matchWithPrior prior
  let results ← scoreLines s.purchaseOrder (s.lines.zip outcomes)
  s.decide (p.apply s results) p threshold

/-- Evaluate an invoice. -/
def evaluate (s : Snapshot) (p : GuardrailPolicy) (threshold : Threshold) :
    Except EvaluationError Evaluation :=
  s.evaluateWithPrior [] p threshold

end Snapshot

/-- Evaluate invoices, each on its own. -/
def evaluateBatch (ss : List Snapshot) (p : GuardrailPolicy) (threshold : Threshold) :
    List (Except EvaluationError Evaluation) :=
  ss.map fun s => s.evaluate p threshold

end Payables
