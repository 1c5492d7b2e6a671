/-
# Replies of the service

What a caller of the service gets: a status and a body.  A request that cannot be served is told
why.
-/
import Payables.Service.Basic
import Payables.Wire.Report

namespace Payables

/-- A reply: the status by its number, and the body. -/
structure Reply where
  status : Nat
  body : Json

namespace Reply

/-- The status of a reply with a report. -/
def ok : Nat := 200

/-- The status where the request's settings are refused. -/
def badRequest : Nat := 400

/-- The status where an invoice is not there. -/
def notFound : Nat := 404

/-- The status where the data of a request are refused. -/
def unprocessable : Nat := 422

/-- The status where the ledger fails. -/
def internal : Nat := 500

/-- The status of a refused evaluation. -/
def statusOf (e : EvaluationError) : Nat := if e.isConfiguration then badRequest else unprocessable

/-- The status of a failed request. -/
def statusOfService : ServiceError → Nat
  | .evaluation e => statusOf e
  | .load (.notFound _) => notFound
  | .load (.ledger _) => internal

/-- The reply of a health check. -/
def health : String := "OK"

/-- The reply to an invoice that is handed in. -/
def toSnapshot (reportBody : Report → Json) : Except EvaluationError Report → Reply
  | .ok r => ⟨ok, reportBody r⟩
  | .error e => ⟨statusOf e, .object [("success", .bool false), ("message", .text e.message)]⟩

/-- The reply to a batch. -/
def toBatch (reportBody : Report → Json) : Except ServiceError (List Report) → Reply
  | .ok rs =>
    ⟨ok, .object
      [ ("success", .bool true),
        ("message", .text ("Successfully evaluated " ++ natText rs.length ++ " invoices")),
        ("reports", Wire.list reportBody rs) ]⟩
  | .error e =>
    ⟨statusOfService e, .object
      [ ("success", .bool false), ("message", .text ("Error: " ++ e.message)),
        ("reports", .null) ]⟩

end Reply
end Payables
