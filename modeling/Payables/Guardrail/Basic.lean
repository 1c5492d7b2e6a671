/-
# Guardrails

Rules that hold an invoice line back whatever its confidence.  Each has an identity, which also
orders lists of guardrails, and a severity.
-/
import Payables.Order

namespace Payables

/-- The rules. -/
inductive Guardrail where
  | duplicatePosting
  | vendorPaymentBlock
  | invoicePredatesPo
  | priceVariance
  | quantityVariance
  | partialReceipt
  | vendorReliabilityWatch
  | largeUnplannedCost
  deriving DecidableEq, Repr

/-- What a triggered rule does: block the line, ask for a review, or leave a note. -/
inductive Severity where
  | hard
  | soft
  | audit
  deriving DecidableEq, Repr

namespace Severity

/-- Every severity. -/
def all : List Severity := [hard, soft, audit]

/-- The written name. -/
def text : Severity → String
  | hard => "hard"
  | soft => "soft"
  | audit => "audit"

/-- The severity of a written name. -/
def ofText? (s : String) : Option Severity := all.find? fun x => x.text == s

@[simp] theorem ofText?_text (s : Severity) : ofText? s.text = some s := by cases s <;> decide

end Severity

namespace Guardrail

/-- Every rule, in order. -/
def all : List Guardrail :=
  [duplicatePosting, vendorPaymentBlock, invoicePredatesPo, priceVariance, quantityVariance,
   partialReceipt, vendorReliabilityWatch, largeUnplannedCost]

/-- The written name. -/
def text : Guardrail → String
  | duplicatePosting => "duplicate-posting"
  | vendorPaymentBlock => "vendor-payment-block"
  | invoicePredatesPo => "invoice-predates-po"
  | priceVariance => "price-variance"
  | quantityVariance => "quantity-variance"
  | partialReceipt => "partial-receipt"
  | vendorReliabilityWatch => "vendor-reliability-watch"
  | largeUnplannedCost => "large-unplanned-cost"

/-- The rule of a written name. -/
def ofText? (s : String) : Option Guardrail := all.find? fun x => x.text == s

@[simp] theorem ofText?_text (g : Guardrail) : ofText? g.text = some g := by cases g <;> decide

/-- The place of a rule in the order. -/
def rank : Guardrail → Nat
  | duplicatePosting => 0
  | vendorPaymentBlock => 1
  | invoicePredatesPo => 2
  | priceVariance => 3
  | quantityVariance => 4
  | partialReceipt => 5
  | vendorReliabilityWatch => 6
  | largeUnplannedCost => 7

/-- A rule stands before another. -/
def lt (a b : Guardrail) : Bool := decide (a.rank < b.rank)

/-- The rules of a list in order, each once. -/
def sorted (ids : List Guardrail) : List Guardrail := sortUnique lt ids

end Guardrail
end Payables
