/-
# Guardrail policies

A policy lists the rules in force, each with a severity and a description, together with the
limits.  The rules that fire on a line are grouped by severity; a result records them in order,
each once.
-/
import Payables.Guardrail.Context

namespace Payables

/-- A rule in force. -/
structure GuardrailDefinition where
  id : Guardrail
  severity : Severity
  description : String
  deriving DecidableEq, Repr

/-- The rules in force and their limits. -/
structure GuardrailPolicy where
  definitions : List GuardrailDefinition
  limits : GuardrailLimits
  deriving DecidableEq, Repr

/-- Rules grouped by severity, each group in order and without repetition. -/
structure TriggeredGuardrails where
  hard : List Guardrail := []
  soft : List Guardrail := []
  audit : List Guardrail := []
  deriving DecidableEq, Repr

namespace TriggeredGuardrails

/-- Add a rule to the group of a severity. -/
def add (t : TriggeredGuardrails) (severity : Severity) (id : Guardrail) : TriggeredGuardrails :=
  match severity with
  | .hard => { t with hard := insertUnique Guardrail.lt id t.hard }
  | .soft => { t with soft := insertUnique Guardrail.lt id t.soft }
  | .audit => { t with audit := insertUnique Guardrail.lt id t.audit }

/-- The rules of all groups, in order. -/
def all (t : TriggeredGuardrails) : List Guardrail :=
  Guardrail.sorted (t.hard ++ t.soft ++ t.audit)

/-- No rule has fired. -/
def isEmpty (t : TriggeredGuardrails) : Bool :=
  t.hard.isEmpty && t.soft.isEmpty && t.audit.isEmpty

end TriggeredGuardrails

namespace GuardrailPolicy

/-- The usual rules with given limits. -/
def standard (limits : GuardrailLimits) : GuardrailPolicy where
  limits := limits
  definitions :=
    [ ⟨.duplicatePosting, .hard, "Invoice, PO and amount combination already posted"⟩,
      ⟨.vendorPaymentBlock, .hard, "Vendor has an active payment block"⟩,
      ⟨.invoicePredatesPo, .hard, "Invoice date is before the PO creation date"⟩,
      ⟨.priceVariance, .soft,
        "Price variance exceeds " ++ limits.priceVariancePct.plainText ++ "%"⟩,
      ⟨.quantityVariance, .soft,
        "Quantity variance exceeds " ++ limits.quantityVariancePct.plainText ++ "%"⟩,
      ⟨.partialReceipt, .soft, "Invoiced quantity exceeds quantity received"⟩,
      ⟨.vendorReliabilityWatch, .audit,
        "Vendor reliability score below " ++ intText limits.reliabilityWatch⟩,
      ⟨.largeUnplannedCost, .audit,
        "Unplanned cost line of " ++ limits.largeUnplannedAmount.plainText ++ " or more"⟩ ]

/-- The usual rules with the usual limits. -/
def default : GuardrailPolicy := standard {}

/-- The first definition of a rule. -/
def definition? (p : GuardrailPolicy) (id : Guardrail) : Option GuardrailDefinition :=
  p.definitions.find? fun d => d.id == id

/-- The severity of a rule, if the policy has it. -/
def severity? (p : GuardrailPolicy) (id : Guardrail) : Option Severity :=
  (p.definition? id).map GuardrailDefinition.severity

/-- The definitions that fire on a line. -/
def firing (p : GuardrailPolicy) (ctx : InvoiceContext) (l : InvoiceLine) (r : MatchResult) :
    List GuardrailDefinition :=
  p.definitions.filter fun d => d.id.fires p.limits ctx l r

/-- The rules that fire on a line, by severity. -/
def triggered (p : GuardrailPolicy) (ctx : InvoiceContext) (l : InvoiceLine) (r : MatchResult) :
    TriggeredGuardrails :=
  (p.firing ctx l r).foldl (fun t d => t.add d.severity d.id) {}

/-- Record on each result the rules that fire on its line. -/
def apply (p : GuardrailPolicy) (s : Snapshot) (rs : List MatchResult) : List MatchResult :=
  let ctx := s.context
  List.zipWith (fun l r => { r with guardrails := (p.triggered ctx l r).all }) s.lines rs

/-- Group recorded rules by severity, after those before them; a rule without definition is
refused. -/
def partitionOnto (p : GuardrailPolicy) :
    TriggeredGuardrails → List Guardrail → Except Guardrail TriggeredGuardrails
  | t, [] => .ok t
  | t, id :: rest =>
    match p.severity? id with
    | none => .error id
    | some severity => partitionOnto p (t.add severity id) rest

/-- Group recorded rules by severity. -/
def partition (p : GuardrailPolicy) (ids : List Guardrail) :
    Except Guardrail TriggeredGuardrails :=
  p.partitionOnto {} ids

end GuardrailPolicy
end Payables
