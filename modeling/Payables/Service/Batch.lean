/-
# Batches

A batch of invoices is served in three phases: the invoices are loaded, they are reported on, and
the reports are exported, where there is a directory for them.  A failure ends the batch before the
next phase.
-/
import Payables.Service.Reply

namespace Payables

/-! ## Files -/

/-- The files that have been written, each by its path. -/
abbrev Files := List (String × String)

namespace Files

/-- Write a file; one of the same path is replaced. -/
def write (path content : String) (files : Files) : Files :=
  (path, content) :: files.filter fun f => f.1 != path

/-- The path of a file in a directory. -/
def join (dir name : String) : String :=
  if dir.isEmpty || dir.endsWith "/" then dir ++ name else dir ++ "/" ++ name

end Files

/-- The name of the table that is exported at an instant, to the millisecond. -/
def exportName (t : Instant) : String :=
  let leap := Instant.nanosPerSecond ≤ t.nano
  let second := t.second % 60 + (if leap then 1 else 0)
  String.ofList ("autopilot-".toList ++ Date.yearChars t.date.year ++ Date.padded 2 t.date.month
    ++ Date.padded 2 t.date.day ++ Date.padded 2 (t.second / 3600)
    ++ Date.padded 2 (t.second / 60 % 60) ++ Date.padded 2 second
    ++ Date.padded 3 (t.nano % Instant.nanosPerSecond / 1000000) ++ ".csv".toList)

/-! ## Runs -/

/-- What a run of a batch finds around it: how the reports come together, when each of them is
made, and where and when they are exported. -/
structure BatchRun where
  gathering : Gathering EvaluationError Report
  reportedAt : Nat → Instant
  exportDir : Option String
  exportedAt : Instant

/-- The files with the table of the reports, where there is a directory for it. -/
def BatchRun.exported (run : BatchRun) (reports : List Report) (files : Files) : Files :=
  match run.exportDir with
  | some dir => files.write (Files.join dir (exportName run.exportedAt)) (Report.csv reports)
  | none => files

/-- Report on the invoices of a batch and export the reports. -/
def Service.runBatch (s : Service) (run : BatchRun) (t : Ledger.Tables)
    (invoiceIds : List String) (requested : Option Int) :
    ExceptT ServiceError (StateM Files) (List Report) := do
  let reports ← ExceptT.mk (pure
    (s.evaluateBatchBy run.gathering run.reportedAt t invoiceIds requested))
  modify (run.exported reports)
  return reports

/-- Reply to a request for a batch. -/
def Service.replyBatch (s : Service) (run : BatchRun) (t : Ledger.Tables)
    (invoiceIds : List String) (requested : Option Int) (reportBody : Report → Json) :
    StateM Files Reply := do
  let answer ← (s.runBatch run t invoiceIds requested).run
  return Reply.toBatch reportBody answer

end Payables
