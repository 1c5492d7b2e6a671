/-
# Decisions

What becomes of a line and of an invoice: posted automatically, sent to review, or blocked.
-/
import Payables.Guardrail.Policy
import Payables.Matching.Score
import Payables.Decision.Threshold

namespace Payables

/-- From the least to the most restrictive. -/
inductive Eligibility where
  | autopilot
  | manualReview
  | blocked
  deriving DecidableEq, Repr

namespace Eligibility

/-- Every eligibility. -/
def all : List Eligibility := [autopilot, manualReview, blocked]

/-- The written name. -/
def text : Eligibility → String
  | autopilot => "autopilot"
  | manualReview => "manual-review"
  | blocked => "blocked"

/-- The eligibility of a written name. -/
def ofText? (s : String) : Option Eligibility := all.find? fun x => x.text == s

@[simp] theorem ofText?_text (e : Eligibility) : ofText? e.text = some e := by cases e <;> decide

/-- The place in the order. -/
def rank : Eligibility → Nat
  | autopilot => 0
  | manualReview => 1
  | blocked => 2

/-- The more restrictive of two. -/
def max (a b : Eligibility) : Eligibility := if a.rank < b.rank then b else a

/-- The most restrictive of a list; an empty list asks for a review. -/
def strictest : List Eligibility → Eligibility
  | [] => manualReview
  | e :: rest => rest.foldl max e

end Eligibility

/-- Why a line is sent to review. -/
inductive ReviewReason where
  | belowThreshold
  | lowBand
  | softGuardrail
  | unresolved (status : MatchStatus)
  deriving DecidableEq, Repr

/-- The decision on a line.  `forcedBy` names the guardrails that hold it back. -/
structure Decision where
  lineNum : Int
  eligibility : Eligibility
  confidence : UInt8
  band : ConfidenceBand
  threshold : UInt8
  forcedBy : List Guardrail
  reviewReasons : List ReviewReason
  deriving DecidableEq, Repr

/-- The decision on an invoice. -/
structure InvoiceDecision where
  invoiceId : String
  eligibility : Eligibility
  confidence : Option UInt8
  threshold : UInt8
  forcedBy : List Guardrail
  auditFlags : List Guardrail
  deriving DecidableEq, Repr

/-! ## Lines -/

/-- The statuses that send a line to review whatever its confidence. -/
def MatchStatus.needsReview : MatchStatus → Bool
  | .unplanned | .unmatched | .exception => true
  | .matched | .shortfall => false

/-- The reasons to review a line, in order. -/
def MatchResult.reviewReasons (r : MatchResult) (triggered : TriggeredGuardrails)
    (threshold : Threshold) : List ReviewReason :=
  (if r.confidence.toNat < threshold.percent then [.belowThreshold] else [])
    ++ (if ConfidenceBand.ofConfidence r.confidence = .low then [.lowBand] else [])
    ++ (if triggered.soft.isEmpty then [] else [.softGuardrail])
    ++ (if r.status.needsReview then [.unresolved r.status] else [])

/-- A hard guardrail blocks a line, a reason to review sends it to review, and any other line is
posted. -/
def MatchResult.decideWith (r : MatchResult) (triggered : TriggeredGuardrails)
    (threshold : Threshold) : Decision :=
  let reasons := r.reviewReasons triggered threshold
  let (eligibility, forcedBy) : Eligibility × List Guardrail :=
    if !triggered.hard.isEmpty then (.blocked, triggered.hard)
    else if !reasons.isEmpty then (.manualReview, triggered.soft)
    else (.autopilot, [])
  { lineNum := r.lineNum
    eligibility := eligibility
    confidence := r.confidence
    band := ConfidenceBand.ofConfidence r.confidence
    threshold := threshold.toUInt8
    forcedBy := forcedBy
    reviewReasons := reasons }

/-- Decide on a line, given its result with the guardrails that fired on it. -/
def MatchResult.decide (r : MatchResult) (p : GuardrailPolicy) (threshold : Threshold) :
    Except EvaluationError Decision := do
  r.validate
  match p.partition r.guardrails with
  | .error id => .error (.unknownGuardrail id)
  | .ok triggered => .ok (r.decideWith triggered threshold)

/-- Decide on lines, one by one. -/
def decideLines (p : GuardrailPolicy) (threshold : Threshold) :
    List MatchResult → Except EvaluationError (List Decision)
  | [] => .ok []
  | r :: rest => do
    let d ← r.decide p threshold
    let ds ← decideLines p threshold rest
    .ok (d :: ds)

/-- There is one decision for each result. -/
theorem length_of_decideLines {p : GuardrailPolicy} {threshold : Threshold}
    {rs : List MatchResult} {ds : List Decision} (h : decideLines p threshold rs = .ok ds) :
    ds.length = rs.length := by
  induction rs generalizing ds with
  | nil =>
    cases h
    rfl
  | cons r rs ih =>
    simp only [decideLines] at h
    cases hd : r.decide p threshold with
    | error e => simp [hd, bind, Except.bind] at h
    | ok d =>
      cases hs : decideLines p threshold rs with
      | error e => simp [hd, hs, bind, Except.bind] at h
      | ok es =>
        simp only [hd, hs, bind, Except.bind] at h
        cases h
        simp [ih hs]

/-! ## Invoices -/

/-- Decide on an invoice: as on its strictest line.  Guardrails that only leave a note become audit
flags. -/
def InvoiceDecision.ofLines (invoiceId : String) (results : List MatchResult)
    (decisions : List Decision) (score : InvoiceScore) (p : GuardrailPolicy)
    (threshold : Threshold) : InvoiceDecision where
  invoiceId := invoiceId
  eligibility := Eligibility.strictest (decisions.map Decision.eligibility)
  confidence := score.confidence
  threshold := threshold.toUInt8
  forcedBy := Guardrail.sorted (decisions.flatMap Decision.forcedBy)
  auditFlags := Guardrail.sorted
    ((results.flatMap MatchResult.guardrails).filter fun id => p.severity? id == some .audit)

end Payables
