/-
# The audit table

Reports as comma-separated records, one for each line of an invoice.  A field that holds a
separator, a quote or a line end stands between quotes, with the quotes inside it doubled.
-/
import Payables.Report.Basic

namespace Payables

namespace Csv

/-- A character that forces quotes around its field. -/
def isSpecial (c : Char) : Bool := c == ',' || c == '"' || c == '\r' || c == '\n'

/-- The characters of a field between quotes. -/
def doubleQuotes : List Char → List Char
  | [] => []
  | c :: r => if c = '"' then '"' :: '"' :: doubleQuotes r else c :: doubleQuotes r

/-- A field as it is written. -/
def writeField (f : String) : List Char :=
  if f.toList.any isSpecial then '"' :: doubleQuotes f.toList ++ ['"'] else f.toList

/-- The fields of a record, a comma between them. -/
def writeFields : List String → List Char
  | [] => []
  | [f] => writeField f
  | f :: r => writeField f ++ ',' :: writeFields r

/-- A record, closed by a line end. -/
def writeRecord (fields : List String) : List Char := writeFields fields ++ ['\n']

/-- Records in their order. -/
def write (records : List (List String)) : String := String.ofList (records.flatMap writeRecord)

end Csv

namespace Report

/-- The names of the columns. -/
def columns : List String :=
  ["invoice_id", "line_num", "po_number", "po_line", "strategy", "raw_confidence", "confidence",
   "band", "status", "variance_type", "variance_pct", "guardrails", "eligibility", "forced_by",
   "threshold", "invoice_eligibility", "invoice_band", "evaluated_at"]

/-- Guardrails in one field. -/
def joinGuardrails (ids : List Guardrail) : String := "|".intercalate (ids.map Guardrail.text)

/-- A byte in base ten. -/
def byteText (b : UInt8) : String := natText b.toNat

/-- The record of a line. -/
def record (r : Report) (l : LineReport) : List String :=
  [ l.result.invoiceId,
    intText l.result.lineNum,
    (l.result.poLine.map PoLineRef.poNumber).getD "",
    (l.result.poLine.map fun ref => intText ref.lineNum).getD "",
    (l.result.strategy.map Strategy.text).getD "none",
    byteText l.result.rawConfidence,
    byteText l.result.confidence,
    l.decision.band.text,
    l.result.status.text,
    l.result.varianceKind.text,
    l.result.variancePct.fixedText 2,
    joinGuardrails l.result.guardrails,
    l.decision.eligibility.text,
    joinGuardrails l.decision.forcedBy,
    byteText l.decision.threshold,
    r.decision.eligibility.text,
    (r.band.map ConfidenceBand.text).getD "",
    r.evaluatedAt.offsetText ]

/-- The records of all lines of a list of reports. -/
def records (rs : List Report) : List (List String) := rs.flatMap fun r => r.lines.map r.record

/-- The table of a list of reports, headed by the names of the columns. -/
def csv (rs : List Report) : String := Csv.write (columns :: records rs)

end Report
end Payables
