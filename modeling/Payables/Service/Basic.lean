/-
# The evaluation service

The service evaluates invoices by the settings of a tenant: the guardrails in force, the usual
threshold, and how many candidate purchase orders a report names.  An invoice is handed in whole,
or named and loaded from the ledger.
-/
import Payables.Ledger.Load
import Payables.Report.Csv

namespace Payables

/-- The settings of matching. -/
structure MatchingSettings where
  threshold : Threshold := Threshold.default
  candidateLimit : Nat := 3
  deriving DecidableEq, Repr

/-- The service of a tenant. -/
structure Service where
  policy : GuardrailPolicy
  matching : MatchingSettings

/-- Why a request to the service fails. -/
inductive ServiceError where
  | evaluation (e : EvaluationError)
  | load (e : LoadError)
  deriving DecidableEq, Repr

namespace ServiceError

/-- The wording. -/
def message : ServiceError → String
  | evaluation e => e.message
  | load e => e.message

end ServiceError

/-! ## Answers of tasks -/

/-- A way to put together what tasks have answered that ran side by side.  The answers keep the
order of the tasks; where some have failed, one of the failures stands for all. -/
structure Gathering (ε α : Type) where
  gather : List (Except ε α) → Except ε (List α)
  answers (xs : List α) : gather (xs.map .ok) = .ok xs
  failure (answers : List (Except ε α)) (e : ε) (he : .error e ∈ answers) :
    ∃ e', .error e' ∈ answers ∧ gather answers = .error e'

namespace Gathering

/-- The answers up to the first failure. -/
def upToFailure : List (Except ε α) → Except ε (List α)
  | [] => .ok []
  | .error e :: _ => .error e
  | .ok x :: rest =>
    match upToFailure rest with
    | .error e => .error e
    | .ok xs => .ok (x :: xs)

theorem upToFailure_map_ok (xs : List α) :
    upToFailure (xs.map (.ok : α → Except ε α)) = .ok xs := by
  induction xs with
  | nil => rfl
  | cons x xs ih => simp only [List.map_cons, upToFailure, ih]

theorem upToFailure_of_mem {answers : List (Except ε α)} {e : ε} (he : .error e ∈ answers) :
    ∃ e', .error e' ∈ answers ∧ upToFailure answers = .error e' := by
  induction answers with
  | nil => cases he
  | cons x rest ih =>
    cases x with
    | error e' => exact ⟨e', List.mem_cons_self, rfl⟩
    | ok x =>
      have hrest : .error e ∈ rest := by simpa using he
      obtain ⟨e', hmem, hfails⟩ := ih hrest
      exact ⟨e', List.mem_cons_of_mem _ hmem, by simp only [upToFailure, hfails]⟩

/-- Tasks are waited for one by one, and the first failure stands for all. -/
def inOrder : Gathering ε α where
  gather := upToFailure
  answers := upToFailure_map_ok
  failure _ _ he := upToFailure_of_mem he

end Gathering

namespace Service

/-- The threshold of a request, or else the tenant's. -/
def resolveThreshold (s : Service) (requested : Option Int) :
    Except EvaluationError Threshold :=
  match requested with
  | some v => Threshold.request v
  | none => .ok s.matching.threshold

/-- Report on a snapshot that is handed in, with the candidates of a pool. -/
def evaluateSnapshot (s : Service) (snapshot : Snapshot) (pool : List PurchaseOrder)
    (requested : Option Int) (stamp : Instant) : Except EvaluationError Report := do
  let threshold ← s.resolveThreshold requested
  snapshot.report pool s.policy threshold s.matching.candidateLimit stamp

/-- The snapshot of an invoice with the open purchase orders of its vendor.  The orders are not
asked for where no candidates are wanted. -/
def loadOne (s : Service) (t : Ledger.Tables) (invoiceId : String) :
    Except LoadError (Snapshot × List PurchaseOrder) := do
  let snapshot ← t.snapshot invoiceId
  if s.matching.candidateLimit = 0 then .ok (snapshot, [])
  else
    let pool ← Ledger.asked (t.openOrders snapshot.header.vendorId)
    .ok (snapshot, pool)

/-- Load invoices in their order, up to the first failure. -/
def loadAll (s : Service) (t : Ledger.Tables) :
    List String → Except LoadError (List (Snapshot × List PurchaseOrder))
  | [] => .ok []
  | id :: rest => do
    let one ← s.loadOne t id
    let others ← loadAll s t rest
    .ok (one :: others)

/-- Report on loaded invoices, each on its own and at its own time. -/
def reportEach (s : Service) (threshold : Threshold) (clock : Nat → Instant)
    (work : List (Snapshot × List PurchaseOrder)) : List (Except EvaluationError Report) :=
  work.mapIdx fun i (snapshot, pool) =>
    snapshot.report pool s.policy threshold s.matching.candidateLimit (clock i)

/-- Report on loaded invoices in their order, up to the first failure. -/
def reportAll (s : Service) (threshold : Threshold) (stamp : Instant)
    (work : List (Snapshot × List PurchaseOrder)) : Except EvaluationError (List Report) :=
  Gathering.inOrder.gather (s.reportEach threshold (fun _ => stamp) work)

/-- Report on the invoices of a batch: all are loaded before any is evaluated, they are evaluated
side by side, and the batch fails as a whole. -/
def evaluateBatchBy (s : Service) (g : Gathering EvaluationError Report) (clock : Nat → Instant)
    (t : Ledger.Tables) (invoiceIds : List String) (requested : Option Int) :
    Except ServiceError (List Report) :=
  match s.resolveThreshold requested with
  | .error e => .error (.evaluation e)
  | .ok threshold =>
    match s.loadAll t invoiceIds with
    | .error e => .error (.load e)
    | .ok work =>
      match g.gather (s.reportEach threshold clock work) with
      | .error e => .error (.evaluation e)
      | .ok reports => .ok reports

/-- Report on the invoices of a batch at one time, up to the first failure. -/
def evaluateBatch (s : Service) (t : Ledger.Tables) (invoiceIds : List String)
    (requested : Option Int) (stamp : Instant) : Except ServiceError (List Report) :=
  s.evaluateBatchBy .inOrder (fun _ => stamp) t invoiceIds requested

end Service
end Payables
