/-
# Match results

What matching and scoring found out about an invoice line.
-/
import Payables.Document.PurchaseOrder
import Payables.Guardrail.Basic
import Payables.Matching.Strategy

namespace Payables

/-- How well a line is matched.  The first three are resolved: the line has a purchase order line.
-/
inductive MatchStatus where
  | matched
  | shortfall
  | exception
  | unplanned
  | unmatched
  deriving DecidableEq, Repr

namespace MatchStatus

/-- Every status. -/
def all : List MatchStatus := [matched, shortfall, exception, unplanned, unmatched]

/-- The written name. -/
def text : MatchStatus → String
  | matched => "matched"
  | shortfall => "partial"
  | exception => "exception"
  | unplanned => "unplanned"
  | unmatched => "unmatched"

/-- The status of a written name. -/
def ofText? (s : String) : Option MatchStatus := all.find? fun x => x.text == s

@[simp] theorem ofText?_text (s : MatchStatus) : ofText? s.text = some s := by cases s <;> decide

/-- A purchase order line was found. -/
def isResolved : MatchStatus → Bool
  | matched | shortfall | exception => true
  | unplanned | unmatched => false

end MatchStatus

/-- What a variance is measured on. -/
inductive VarianceKind where
  | none
  | price
  | quantity
  | unplannedCost
  deriving DecidableEq, Repr

namespace VarianceKind

/-- Every kind. -/
def all : List VarianceKind := [none, price, quantity, unplannedCost]

/-- The written name. -/
def text : VarianceKind → String
  | none => "none"
  | price => "price"
  | quantity => "quantity"
  | unplannedCost => "unplanned-cost"

/-- The kind of a written name. -/
def ofText? (s : String) : Option VarianceKind := all.find? fun x => x.text == s

@[simp] theorem ofText?_text (k : VarianceKind) : ofText? k.text = some k := by cases k <;> decide

end VarianceKind

/-- The result for one line.  `rawConfidence` is what the strategy gave, `confidence` what is left
of it after the variance. -/
structure MatchResult where
  invoiceId : String
  lineNum : Int
  poLine : Option PoLineRef
  strategy : Option Strategy
  rawConfidence : UInt8
  confidence : UInt8
  status : MatchStatus
  varianceKind : VarianceKind
  variancePct : Binary64
  guardrails : List Guardrail
  deriving DecidableEq, Repr

end Payables
