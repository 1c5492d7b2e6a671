/-
# Candidate purchase orders

An invoice is tried against every purchase order of a pool, and the orders that match best are
named.  A trial against an order that the invoice does not name leaves out what belongs to its own
order: the references to order lines, and the receipts.
-/
import Payables.Document.Validation
import Payables.Matching.Score

namespace Payables

/-- A purchase order that an invoice might belong to. -/
structure PoCandidate where
  poNumber : String
  matchedLines : Nat
  confidence : Option UInt8
  deriving DecidableEq, Repr

namespace PoCandidate

/-- A confidence as a rank: none comes below all others. -/
def confidenceRank : Option UInt8 → Nat
  | none => 0
  | some c => c.toNat + 1

/-- A candidate may stand before another: more matched lines first, then the higher confidence,
then the smaller number. -/
def le (a b : PoCandidate) : Bool :=
  if a.matchedLines ≠ b.matchedLines then decide (b.matchedLines < a.matchedLines)
  else if confidenceRank a.confidence ≠ confidenceRank b.confidence then
    decide (confidenceRank b.confidence < confidenceRank a.confidence)
  else textLe a.poNumber b.poNumber

end PoCandidate

namespace Snapshot

/-- The snapshot as a trial against a purchase order. -/
def retarget (s : Snapshot) (po : PurchaseOrder) : Snapshot :=
  let trial : Snapshot :=
    { s with
      header := { s.header with poNumber := some po.poNumber }
      purchaseOrder := some po }
  if s.header.poNumber = some po.poNumber then trial
  else
    { trial with
      lines := trial.lines.map fun l => { l with poLineRef := none }
      receipts := [] }

/-- The score of a trial against a purchase order. -/
def trialScore (s : Snapshot) (po : PurchaseOrder) : Except EvaluationError InvoiceScore := do
  let trial := s.retarget po
  trial.validate
  let outcomes ← trial.matchLines
  let results ← scoreLines trial.purchaseOrder (trial.lines.zip outcomes)
  .ok (InvoiceScore.ofResults results)

/-- The candidate that a purchase order makes.  An order that cannot be tried or that matches no
line makes none. -/
def candidate? (s : Snapshot) (po : PurchaseOrder) : Option PoCandidate :=
  match s.trialScore po with
  | .error _ => none
  | .ok score =>
    if score.resolved = 0 then none
    else some ⟨po.poNumber, score.resolved, score.confidence⟩

/-- The first order of each number. -/
def firstOfNumber : List String → List PurchaseOrder → List PurchaseOrder
  | _, [] => []
  | seen, po :: rest =>
    if seen.contains po.poNumber then firstOfNumber seen rest
    else po :: firstOfNumber (po.poNumber :: seen) rest

/-- The best candidates of a pool, at most `limit` of them. -/
def rankCandidates (s : Snapshot) (pool : List PurchaseOrder) (limit : Nat) : List PoCandidate :=
  if limit = 0 then []
  else (sortBy PoCandidate.le ((firstOfNumber [] pool).filterMap s.candidate?)).take limit

end Snapshot
end Payables
