/-
# Matching an invoice

Every invoice line ends with an outcome: assigned to a purchase order line, unmatched, or
unplanned on an invoice without a purchase order.  Results of an earlier run may be given as a
prior: their lines keep what they were given, and only the other lines are matched anew.
-/
import Payables.Matching.Board
import Payables.Matching.Consistency

namespace Payables

/-- What matching gives an invoice line. -/
inductive LineOutcome where
  | assigned (a : Assignment)
  | unmatched
  | unplanned
  deriving DecidableEq, Repr

namespace MatchResult

/-- What is wrong with a prior result of an invoice, given the line numbers that came before it. -/
def priorInconsistency? (s : Snapshot) (seen : List Int) (r : MatchResult) :
    Option Inconsistency :=
  if r.invoiceId ≠ s.header.invoiceId then
    some (.foreignPrior r.invoiceId s.header.invoiceId)
  else if seen.contains r.lineNum then some .repeatedPrior
  else if !s.lines.any fun l => l.lineNum == r.lineNum then some .priorNotOnInvoice
  else if r.poLine.isSome != r.strategy.isSome then some .halfClaim
  else r.inconsistency?

/-- Accept prior results that are consistent and belong to distinct lines of the invoice. -/
def checkPrior (s : Snapshot) : List Int → List MatchResult → Except EvaluationError Unit
  | _, [] => .ok ()
  | seen, r :: rest =>
    match r.priorInconsistency? s seen with
    | some reason => .error (.inconsistentMatch r.lineNum reason)
    | none => checkPrior s (r.lineNum :: seen) rest

end MatchResult

namespace Board

/-- Claim what a prior result was given. -/
def seedOne (poNumber : String) (b : Board) (r : MatchResult) : Except EvaluationError Board :=
  match r.poLine, r.strategy with
  | some ref, some strategy =>
    if ref.poNumber ≠ poNumber || !b.hasLine ref.lineNum then
      .error (.unknownPoLine r.lineNum ref)
    else if b.isClaimed ref.lineNum then
      .error (.inconsistentMatch r.lineNum (.claimedTwice ref))
    else .ok (b.claim r.lineNum ⟨ref.lineNum, strategy, r.rawConfidence⟩)
  | _, _ => .ok b

/-- Claim what the prior results were given, in their order. -/
def seed (poNumber : String) : Board → List MatchResult → Except EvaluationError Board
  | b, [] => .ok b
  | b, r :: rest =>
    match seedOne poNumber b r with
    | .error e => .error e
    | .ok b => seed poNumber b rest

/-- The outcome of an invoice line on a finished board. -/
def outcome (b : Board) (l : InvoiceLine) : LineOutcome :=
  match b.assignment? l.lineNum with
  | some a => .assigned a
  | none => .unmatched

end Board

namespace Snapshot

/-- The outcomes of an invoice without a purchase order: no prior result may claim a line. -/
def unplannedOutcomes (s : Snapshot) (prior : List MatchResult) :
    Except EvaluationError (List LineOutcome) :=
  match prior.find? fun r => r.poLine.isSome with
  | some r => .error (.inconsistentMatch r.lineNum .claimWithoutOrder)
  | none => .ok (s.lines.map fun _ => .unplanned)

/-- The outcomes of the invoice lines, in their order, with prior results kept. -/
def matchWithPrior (s : Snapshot) (prior : List MatchResult) :
    Except EvaluationError (List LineOutcome) := do
  MatchResult.checkPrior s [] prior
  match s.header.poNumber, s.purchaseOrder with
  | none, _ => s.unplannedOutcomes prior
  | some number, none => .error (.missingPurchaseOrder s.header.invoiceId number)
  | some _, some po =>
    let seeded ← (Board.ofOrder po s.receipts).seed po.poNumber prior
    .ok (s.lines.map (seeded.play s.lines).outcome)

/-- The outcomes of the invoice lines, in their order. -/
def matchLines (s : Snapshot) : Except EvaluationError (List LineOutcome) := s.matchWithPrior []

end Snapshot
end Payables
