/-
# Exchange form of guardrails
-/
import Payables.Wire.Scalar
import Payables.Guardrail.Policy

namespace Payables.Wire

/-- Read a guardrail. -/
def guardrail? : Json → Option Guardrail := name? Guardrail.ofText?

/-- Write a guardrail. -/
def guardrail (g : Guardrail) : Json := .text g.text

/-- Write a severity. -/
def severity (s : Severity) : Json := .text s.text

/-- Read limits; each has a usual value. -/
def limits? (j : Json) : Option GuardrailLimits := do
  let j ← record? []
    [ "soft_price_variance_pct", "soft_quantity_variance_pct", "reliability_watch",
      "large_unplanned_amount" ] j
  let usual : GuardrailLimits := {}
  some
    { priceVariancePct := ← fieldOr? j "soft_price_variance_pct" usual.priceVariancePct number?
      quantityVariancePct :=
        ← fieldOr? j "soft_quantity_variance_pct" usual.quantityVariancePct number?
      reliabilityWatch := ← fieldOr? j "reliability_watch" usual.reliabilityWatch int32?
      largeUnplannedAmount :=
        ← fieldOr? j "large_unplanned_amount" usual.largeUnplannedAmount number? }

/-- Write limits. -/
def limits (l : GuardrailLimits) : Json :=
  .object
    [ ("soft_price_variance_pct", percent l.priceVariancePct),
      ("soft_quantity_variance_pct", percent l.quantityVariancePct),
      ("reliability_watch", .integer l.reliabilityWatch),
      ("large_unplanned_amount", percent l.largeUnplannedAmount) ]

/-- Read a definition. -/
def definition? (j : Json) : Option GuardrailDefinition := do
  let j ← record? ["id", "severity", "description"] [] j
  some
    { id := ← field? j "id" guardrail?
      severity := ← field? j "severity" (name? Severity.ofText?)
      description := ← field? j "description" text? }

/-- Write a definition. -/
def definition (d : GuardrailDefinition) : Json :=
  .object
    [ ("id", guardrail d.id), ("severity", severity d.severity),
      ("description", .text d.description) ]

/-- Read a policy: the usual one, the usual rules with other limits, or other rules. -/
def policy? : Json → Option GuardrailPolicy
  | .null => some GuardrailPolicy.default
  | j => do
    let j ← object? j
    let l ← field? j "limits" (optional? limits?)
    let l := l.getD {}
    let ds ← field? j "definitions" (optional? (list? definition?))
    match ds with
    | none => some (GuardrailPolicy.standard l)
    | some ds => some ⟨ds, l⟩

/-- Write a policy. -/
def policyFields (p : GuardrailPolicy) : List (String × Json) :=
  [("definitions", list definition p.definitions), ("limits", limits p.limits)]

/-- Write the rules that fired. -/
def triggered (t : TriggeredGuardrails) : Json :=
  .object
    [ ("hard", list guardrail t.hard), ("soft", list guardrail t.soft),
      ("audit", list guardrail t.audit), ("all", list guardrail t.all),
      ("is_empty", .bool t.isEmpty) ]

end Payables.Wire
