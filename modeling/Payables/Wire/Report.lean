/-
# Exchange form of results and reports

Outcomes, match results, decisions, evaluations and reports as exchange values.
-/
import Payables.Wire.Document
import Payables.Wire.Guardrail
import Payables.Report.Basic

namespace Payables.Wire

/-! ## Matching -/

/-- Read a strategy. -/
def strategy? : Json → Option Strategy := name? Strategy.ofText?

/-- Write a strategy. -/
def strategy (s : Strategy) : Json := .text s.text

/-- Read what an invoice line is assigned. -/
def assignment? (j : Json) : Option Assignment := do
  let j ← record? ["po_line", "strategy", "raw_confidence"] [] j
  some
    { poLine := ← field? j "po_line" int32?
      strategy := ← field? j "strategy" strategy?
      rawConfidence := ← field? j "raw_confidence" byte? }

/-- Read an outcome. -/
def outcome? : Json → Option LineOutcome
  | .text "Unmatched" | .object [("Unmatched", .null)] => some .unmatched
  | .text "Unplanned" | .object [("Unplanned", .null)] => some .unplanned
  | .object [("Assigned", j)] => (assignment? j).map .assigned
  | _ => none

/-- Write an outcome. -/
def outcome : LineOutcome → Json
  | .unmatched => .text "Unmatched"
  | .unplanned => .text "Unplanned"
  | .assigned a =>
    .object
      [ ("Assigned",
          .object
            [ ("po_line", .integer a.poLine), ("strategy", strategy a.strategy),
              ("raw_confidence", byte a.rawConfidence) ]) ]

/-- Read a status. -/
def status? : Json → Option MatchStatus := name? MatchStatus.ofText?

/-- Read a match result. -/
def result? (j : Json) : Option MatchResult := do
  let j ← record?
    [ "invoice_id", "line_num", "po_line", "strategy", "raw_confidence", "confidence", "status",
      "variance_type", "variance_pct", "triggered_guardrails" ] [] j
  some
    { invoiceId := ← field? j "invoice_id" text?
      lineNum := ← field? j "line_num" int32?
      poLine := ← field? j "po_line" (optional? lineRef?)
      strategy := ← field? j "strategy" (optional? strategy?)
      rawConfidence := ← field? j "raw_confidence" byte?
      confidence := ← field? j "confidence" byte?
      status := ← field? j "status" status?
      varianceKind := ← field? j "variance_type" (name? VarianceKind.ofText?)
      variancePct := ← field? j "variance_pct" percent?
      guardrails := ← field? j "triggered_guardrails" (list? guardrail?) }

/-- Write a match result. -/
def result (r : MatchResult) : Json :=
  .object
    [ ("invoice_id", .text r.invoiceId), ("line_num", .integer r.lineNum),
      ("po_line", optional lineRef r.poLine), ("strategy", optional strategy r.strategy),
      ("raw_confidence", byte r.rawConfidence), ("confidence", byte r.confidence),
      ("status", .text r.status.text), ("variance_type", .text r.varianceKind.text),
      ("variance_pct", percent r.variancePct),
      ("triggered_guardrails", list guardrail r.guardrails) ]

/-- Read a score. -/
def score? (j : Json) : Option InvoiceScore := do
  let j ← record? ["confidence", "resolved_count", "unresolved_count"] [] j
  some
    { confidence := ← field? j "confidence" (optional? byte?)
      resolved := ← field? j "resolved_count" count?
      unresolved := ← field? j "unresolved_count" count? }

/-- Write a score. -/
def score (s : InvoiceScore) : Json :=
  .object
    [ ("confidence", optional byte s.confidence), ("resolved_count", count s.resolved),
      ("unresolved_count", count s.unresolved) ]

/-! ## Decisions -/

/-- Read an eligibility. -/
def eligibility? : Json → Option Eligibility := name? Eligibility.ofText?

/-- Write an eligibility. -/
def eligibility (e : Eligibility) : Json := .text e.text

/-- Write a band. -/
def band (b : ConfidenceBand) : Json := .text b.text

/-- Read the status in a reason to review, where nothing may also be an empty object. -/
def reasonStatus? : Json → Option MatchStatus
  | .object [(s, .object [])] => MatchStatus.ofText? s
  | j => status? j

/-- Read a reason to review: a record whose first field, the kind, tells which others there are. -/
def reason? (j : Json) : Option ReviewReason := do
  let kinded ← record? ["kind"] ["status"] j
  let plain := record? ["kind"] [] j
  match ← field? kinded "kind" text? with
  | "below-threshold" => plain.map fun _ => .belowThreshold
  | "low-band" => plain.map fun _ => .lowBand
  | "soft-guardrail" => plain.map fun _ => .softGuardrail
  | "unresolved" => (field? kinded "status" reasonStatus?).map .unresolved
  | _ => none

/-- Write a reason to review. -/
def reason : ReviewReason → Json
  | .belowThreshold => .object [("kind", .text "below-threshold")]
  | .lowBand => .object [("kind", .text "low-band")]
  | .softGuardrail => .object [("kind", .text "soft-guardrail")]
  | .unresolved s => .object [("kind", .text "unresolved"), ("status", .text s.text)]

/-- Read a decision. -/
def decision? (j : Json) : Option Decision := do
  let j ← record?
    [ "line_num", "eligibility", "confidence", "band", "threshold", "forced_by", "review_reasons" ]
    [] j
  some
    { lineNum := ← field? j "line_num" int32?
      eligibility := ← field? j "eligibility" eligibility?
      confidence := ← field? j "confidence" byte?
      band := ← field? j "band" (name? ConfidenceBand.ofText?)
      threshold := ← field? j "threshold" byte?
      forcedBy := ← field? j "forced_by" (list? guardrail?)
      reviewReasons := ← field? j "review_reasons" (list? reason?) }

/-- Write a decision. -/
def decision (d : Decision) : Json :=
  .object
    [ ("line_num", .integer d.lineNum), ("eligibility", eligibility d.eligibility),
      ("confidence", byte d.confidence), ("band", band d.band),
      ("threshold", byte d.threshold), ("forced_by", list guardrail d.forcedBy),
      ("review_reasons", list reason d.reviewReasons) ]

/-- Read a decision on an invoice. -/
def invoiceDecision? (j : Json) : Option InvoiceDecision := do
  let j ← record?
    [ "invoice_id", "eligibility", "confidence", "threshold", "forced_by", "audit_flags" ] [] j
  some
    { invoiceId := ← field? j "invoice_id" text?
      eligibility := ← field? j "eligibility" eligibility?
      confidence := ← field? j "confidence" (optional? byte?)
      threshold := ← field? j "threshold" byte?
      forcedBy := ← field? j "forced_by" (list? guardrail?)
      auditFlags := ← field? j "audit_flags" (list? guardrail?) }

/-- Write a decision on an invoice. -/
def invoiceDecision (d : InvoiceDecision) : Json :=
  .object
    [ ("invoice_id", .text d.invoiceId), ("eligibility", eligibility d.eligibility),
      ("confidence", optional byte d.confidence), ("threshold", byte d.threshold),
      ("forced_by", list guardrail d.forcedBy), ("audit_flags", list guardrail d.auditFlags) ]

/-- Read an evaluation. -/
def evaluation? (j : Json) : Option Evaluation := do
  let j ← record? ["results", "decisions", "invoice_decision", "score"] [] j
  some
    { results := ← field? j "results" (list? result?)
      decisions := ← field? j "decisions" (list? decision?)
      decision := ← field? j "invoice_decision" invoiceDecision?
      score := ← field? j "score" score? }

/-- Write an evaluation. -/
def evaluation (e : Evaluation) : Json :=
  .object
    [ ("results", list result e.results), ("decisions", list decision e.decisions),
      ("invoice_decision", invoiceDecision e.decision), ("score", score e.score) ]

/-! ## Reports -/

/-- Read a candidate purchase order. -/
def candidate? (j : Json) : Option PoCandidate := do
  let j ← record? ["po_number", "matched_lines", "confidence"] [] j
  some
    { poNumber := ← field? j "po_number" text?
      matchedLines := ← field? j "matched_lines" count?
      confidence := ← field? j "confidence" (optional? byte?) }

/-- Write a candidate purchase order. -/
def candidate (c : PoCandidate) : Json :=
  .object
    [ ("po_number", .text c.poNumber), ("matched_lines", count c.matchedLines),
      ("confidence", optional byte c.confidence) ]

/-- Read the report on a line. -/
def lineReport? (j : Json) : Option LineReport := do
  let j ← record? ["result", "decision"] [] j
  some
    { result := ← field? j "result" result?
      decision := ← field? j "decision" decision? }

/-- Write the report on a line. -/
def lineReport (l : LineReport) : Json :=
  .object [("result", result l.result), ("decision", decision l.decision)]

/-- Read a report. -/
def report? (j : Json) : Option Report := do
  let j ← record?
    [ "invoice_id", "lines", "decision", "score", "audit_flags", "po_candidates", "evaluated_at" ]
    [] j
  some
    { invoiceId := ← field? j "invoice_id" text?
      lines := ← field? j "lines" (list? lineReport?)
      decision := ← field? j "decision" invoiceDecision?
      score := ← field? j "score" score?
      auditFlags := ← field? j "audit_flags" (list? guardrail?)
      candidates := ← field? j "po_candidates" (list? candidate?)
      evaluatedAt := ← field? j "evaluated_at" instant? }

/-- The fields of a report that its evaluation determines. -/
def reportFields (r : Report) : List (String × Json) :=
  [ ("invoice_id", .text r.invoiceId), ("lines", list lineReport r.lines),
    ("decision", invoiceDecision r.decision), ("score", score r.score),
    ("audit_flags", list guardrail r.auditFlags),
    ("po_candidates", list candidate r.candidates) ]

/-- Write a report. -/
def report (r : Report) : Json :=
  .object (reportFields r ++ [("evaluated_at", instant r.evaluatedAt)])

end Payables.Wire
