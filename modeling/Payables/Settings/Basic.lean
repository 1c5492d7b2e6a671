/-
# Settings

The settings of the service, by section.  Whatever neither the file nor the environment sets has a
usual value; what is set has to be of its kind and in its range.
-/
import Payables.Settings.Toml
import Payables.Settings.Environment
import Payables.Service.Basic

namespace Payables

/-- The settings of the service. -/
structure Settings where
  host : String := "127.0.0.1"
  port : Nat := 8080
  databaseUrl : String := "postgres://localhost/accounts_payable"
  matching : MatchingSettings := {}
  limits : GuardrailLimits := {}
  exportDir : Option String := none
  deriving DecidableEq, Repr

namespace Settings

/-- A section of the tree as a table.  A list holds the values of its keys in their order; a
section that is missing is empty, and one that is neither is refused. -/
def section? (tree : Json) (name : String) (keys : List String) : Option Json :=
  match tree.field? name with
  | none => some (.object [])
  | some (.object t) => some (.object t)
  | some (.array js) => some (.object (keys.zip js))
  | some _ => none

/-- A value of a section, or its usual value where it is missing. -/
def valueOr? (table : Json) (key : String) (usual : α) (read? : Json → Option α) : Option α :=
  match table.field? key with
  | none => some usual
  | some j => read? j

/-- A port number. -/
def port? (j : Json) : Option Nat :=
  ((count? j).bind (within? 0 65535)).map Int.toNat

/-- A 32-bit integer. -/
def int32? (j : Json) : Option Int := (signed? j).bind (within? (-2147483648) 2147483647)

/-- A text that may be empty of any value. -/
def optionalText? (j : Json) : Option (Option String) :=
  if j.isNull then some none else (text? j).map some

/-- A threshold. -/
def threshold? (j : Json) : Option Threshold := (signed? j).bind Threshold.ofInt?

/-- The settings of a tree, where `databaseUrl` is the usual address of the database. -/
def ofTree? (tree : Json) (databaseUrl : String) : Option Settings := do
  let usual : Settings := { databaseUrl := databaseUrl }
  let server ← section? tree "server" ["host", "port"]
  let database ← section? tree "database" ["url"]
  let matching ← section? tree "matching" ["autopilot_threshold", "po_candidate_limit"]
  let guardrails ← section? tree "guardrails"
    [ "soft_price_variance_pct", "soft_quantity_variance_pct", "reliability_watch",
      "large_unplanned_amount" ]
  let «export» ← section? tree "export" ["dir"]
  some
    { host := ← valueOr? server "host" usual.host text?
      port := ← valueOr? server "port" usual.port port?
      databaseUrl := ← valueOr? database "url" usual.databaseUrl text?
      matching :=
        { threshold :=
            ← valueOr? matching "autopilot_threshold" usual.matching.threshold threshold?
          candidateLimit :=
            ← valueOr? matching "po_candidate_limit" usual.matching.candidateLimit
                fun j => (count? j).map Int.toNat }
      limits :=
        { priceVariancePct :=
            ← valueOr? guardrails "soft_price_variance_pct" usual.limits.priceVariancePct number?
          quantityVariancePct :=
            ← valueOr? guardrails "soft_quantity_variance_pct" usual.limits.quantityVariancePct
                number?
          reliabilityWatch :=
            ← valueOr? guardrails "reliability_watch" usual.limits.reliabilityWatch int32?
          largeUnplannedAmount :=
            ← valueOr? guardrails "large_unplanned_amount" usual.limits.largeUnplannedAmount
                number? }
      exportDir := ← valueOr? «export» "dir" usual.exportDir optionalText? }

/-- The address of the database that the environment gives. -/
def databaseVariable? (env : List (String × String)) : Option String :=
  (env.find? fun v => v.1 == "DATABASE_URL").map Prod.snd

/-- Load the settings of a file, if there is one, and of the environment. -/
def load? (file : Option String) (env : List (String × String)) : Option Settings := do
  let found ← match file with
    | some text => Toml.read? text
    | none => some []
  let tree := putAll found (.object [])
  let usual : Settings := {}
  ofTree? (overlay env tree) ((databaseVariable? env).getD usual.databaseUrl)

end Settings
end Payables
