/-
# Errors of an evaluation

Why an invoice is refused before it is judged.  Each cause keeps what it was found on; the wording
is in `EvaluationError.message`.
-/
import Payables.Matching.Result
import Payables.Decimal.Text
import Payables.Binary64.Text

namespace Payables

/-- What is wrong with a match result. -/
inductive Inconsistency where
  | foreignPrior (found expected : String)
  | repeatedPrior
  | priorNotOnInvoice
  | halfClaim
  | claimWithoutOrder
  | claimedTwice (poLine : PoLineRef)
  | confidenceAboveHundred
  | confidenceAboveRaw
  | varianceNotFinite
  | varianceWithoutKind
  | resolvedWithoutClaim (status : MatchStatus)
  | matchedBeyondTolerance (pct : Binary64) (strategy : Strategy)
  | unresolvedWithClaim (status : MatchStatus)
  deriving DecidableEq, Repr

namespace Inconsistency

/-- The wording. -/
def message : Inconsistency → String
  | foreignPrior found expected =>
    "prior result belongs to invoice " ++ found ++ ", expected " ++ expected
  | repeatedPrior => "more than one prior result for the same line"
  | priorNotOnInvoice => "prior result refers to a line that is not on the invoice"
  | halfClaim => "prior result must carry both a PO line and a strategy, or neither"
  | claimWithoutOrder => "prior result references a PO line on a non-PO invoice"
  | claimedTwice r => "PO line " ++ r.text ++ " is claimed by more than one prior result"
  | confidenceAboveHundred => "confidence above 100"
  | confidenceAboveRaw => "confidence exceeds raw strategy confidence"
  | varianceNotFinite => "variance percentage is not finite"
  | varianceWithoutKind => "variance percentage set without a variance type"
  | resolvedWithoutClaim s => "status " ++ s.text ++ " without PO line and strategy"
  | matchedBeyondTolerance pct s =>
    "matched with variance " ++ pct.plainText ++ "% beyond " ++ s.text ++ " tolerance "
      ++ s.tolerance.plainText ++ "%"
  | unresolvedWithClaim s => "status " ++ s.text ++ " must not carry a PO line or strategy"

end Inconsistency

/-- Why an evaluation is refused. -/
inductive EvaluationError where
  | amountMismatch (invoiceId : String) (lineNum : Int) (amount expected : Decimal)
  | foreignLine (expected found : String) (lineNum : Int)
  | duplicateInvoiceLine (invoiceId : String) (lineNum : Int)
  | duplicatePoLine (poNumber : String) (lineNum : Int)
  | purchaseOrderMismatch (invoiceId expected found : String)
  | missingPurchaseOrder (invoiceId poNumber : String)
  | unknownPoLine (lineNum : Int) (poLine : PoLineRef)
  | inconsistentMatch (lineNum : Int) (reason : Inconsistency)
  | unknownGuardrail (id : Guardrail)
  | thresholdOutOfRange (requested : Int)
  deriving DecidableEq, Repr

namespace EvaluationError

/-- The wording. -/
def message : EvaluationError → String
  | amountMismatch id n amount expected =>
    "invoice " ++ id ++ " line " ++ intText n ++ ": amount " ++ amount.text
      ++ " does not match quantity x unit price (" ++ expected.text ++ ")"
  | foreignLine expected found n =>
    "line " ++ intText n ++ " belongs to invoice " ++ found ++ ", expected " ++ expected
  | duplicateInvoiceLine id n => "invoice " ++ id ++ " has duplicate line number " ++ intText n
  | duplicatePoLine po n => "purchase order " ++ po ++ " has duplicate line number " ++ intText n
  | purchaseOrderMismatch id expected found =>
    "invoice " ++ id ++ " references purchase order " ++ expected ++ " but " ++ found
      ++ " was supplied"
  | missingPurchaseOrder id po =>
    "invoice " ++ id ++ " references purchase order " ++ po
      ++ " but no purchase order data was supplied"
  | unknownPoLine n r =>
    "line " ++ intText n ++ " references PO line " ++ r.text
      ++ " which is not in the supplied PO lines"
  | inconsistentMatch n reason =>
    "inconsistent match result for line " ++ intText n ++ ": " ++ reason.message
  | unknownGuardrail id => "guardrail " ++ id.text ++ " is not defined"
  | thresholdOutOfRange v => "autopilot threshold " ++ intText v ++ " is outside [50, 100]"

/-- The cause lies in the settings of the call and not in its data. -/
def isConfiguration : EvaluationError → Bool
  | thresholdOutOfRange _ => true
  | _ => false

end EvaluationError
end Payables
