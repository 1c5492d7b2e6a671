/-
# Scores

A matched line is scored by its variance, an invoice by the mean confidence of its resolved lines.
-/
import Payables.Matching.Outcome

namespace Payables

/-! ## Confidence bands -/

/-- A coarse grade of a confidence. -/
inductive ConfidenceBand where
  | high
  | medium
  | low
  deriving DecidableEq, Repr

namespace ConfidenceBand

/-- Every band. -/
def all : List ConfidenceBand := [high, medium, low]

/-- The written name. -/
def text : ConfidenceBand → String
  | high => "high"
  | medium => "medium"
  | low => "low"

/-- The band of a written name. -/
def ofText? (s : String) : Option ConfidenceBand := all.find? fun x => x.text == s

@[simp] theorem ofText?_text (b : ConfidenceBand) : ofText? b.text = some b := by cases b <;> decide

/-- High from 95, medium from 85. -/
def ofConfidence (c : UInt8) : ConfidenceBand :=
  if 95 ≤ c then high else if 85 ≤ c then medium else low

end ConfidenceBand

/-! ## Lines -/

namespace InvoiceLine

/-- The result of a line that nothing is known about. -/
def unmatchedResult (l : InvoiceLine) : MatchResult where
  invoiceId := l.invoiceId
  lineNum := l.lineNum
  poLine := none
  strategy := none
  rawConfidence := 0
  confidence := 0
  status := .unmatched
  varianceKind := .none
  variancePct := Binary64.zero
  guardrails := []

/-- The result of a line of an invoice without a purchase order. -/
def unplannedResult (l : InvoiceLine) : MatchResult :=
  { l.unmatchedResult with status := .unplanned, varianceKind := .unplannedCost }

/-- The result of a line that is assigned to a line of a purchase order. -/
def assignedResult (l : InvoiceLine) (a : Assignment) (po : PurchaseOrder)
    (p : PurchaseOrderLine) : MatchResult :=
  let v := Variance.measure l p
  { l.unmatchedResult with
    poLine := some ⟨po.poNumber, p.lineNum⟩
    strategy := some a.strategy
    rawConfidence := a.rawConfidence
    confidence := Variance.confidence a.rawConfidence v.pct
    status := v.classify a.strategy
    varianceKind := v.kind
    variancePct := v.pct }

/-- Score the outcome of a line.  The purchase order has to have the line that is assigned. -/
def score (l : InvoiceLine) (po : Option PurchaseOrder) : LineOutcome →
    Except EvaluationError MatchResult
  | .unplanned => .ok l.unplannedResult
  | .unmatched => .ok l.unmatchedResult
  | .assigned a =>
    match po with
    | none => .error (.unknownPoLine l.lineNum ⟨"", a.poLine⟩)
    | some po =>
      match po.line? a.poLine with
      | none => .error (.unknownPoLine l.lineNum ⟨po.poNumber, a.poLine⟩)
      | some p => .ok (l.assignedResult a po p)

end InvoiceLine

/-- Score the outcomes of lines, one by one. -/
def scoreLines (po : Option PurchaseOrder) : List (InvoiceLine × LineOutcome) →
    Except EvaluationError (List MatchResult)
  | [] => .ok []
  | (l, o) :: rest => do
    let r ← l.score po o
    let rs ← scoreLines po rest
    .ok (r :: rs)

/-- Scoring keeps one result for each line. -/
theorem length_of_scoreLines {po : Option PurchaseOrder} {xs : List (InvoiceLine × LineOutcome)}
    {rs : List MatchResult} (h : scoreLines po xs = .ok rs) : rs.length = xs.length := by
  induction xs generalizing rs with
  | nil =>
    cases h
    rfl
  | cons x xs ih =>
    obtain ⟨l, o⟩ := x
    simp only [scoreLines] at h
    cases hr : l.score po o with
    | error e => simp [hr, bind, Except.bind] at h
    | ok r =>
      cases hs : scoreLines po xs with
      | error e => simp [hr, hs, bind, Except.bind] at h
      | ok ss =>
        simp only [hr, hs, bind, Except.bind] at h
        cases h
        simp [ih hs]

/-! ## Invoices -/

/-- The score of an invoice: the rounded mean confidence of its resolved lines, if it has any, and
how many lines are resolved and not. -/
structure InvoiceScore where
  confidence : Option UInt8
  resolved : Nat
  unresolved : Nat
  deriving DecidableEq, Repr

namespace InvoiceScore

/-- The sum of confidences. -/
def confidenceSum (cs : List UInt8) : Nat := cs.foldl (fun n c => n + c.toNat) 0

/-- The mean, a half rounded up. -/
def mean (cs : List UInt8) : UInt8 :=
  UInt8.ofNat ((confidenceSum cs * 2 + cs.length) / (2 * cs.length))

/-- The score of a list of results. -/
def ofResults (rs : List MatchResult) : InvoiceScore :=
  let resolved := (rs.filter fun r => r.status.isResolved).map MatchResult.confidence
  { confidence := if resolved.isEmpty then none else some (mean resolved)
    resolved := resolved.length
    unresolved := rs.length - resolved.length }

end InvoiceScore
end Payables
