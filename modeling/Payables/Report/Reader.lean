/-
# Reading the audit table

What other programs make of the table.  A record ends at a line end outside quotes, and empty lines
are passed over; between quotes every character counts, and two quotes stand for one.  The fields of
a record say what the table tells about a line.
-/
import Payables.Report.Csv

namespace Payables

namespace Csv

/-- Where a reader stands: between two records, before a field, in a field without quotes, in a
quoted one, or behind a quote in it, which ends the field or stands for itself. -/
inductive Place where
  | outside
  | opening
  | bare
  | quoted
  | closing
  deriving DecidableEq, Repr

/-- The record that is being read: its whole fields and the characters of the next one. -/
structure Draft where
  fields : List String := []
  field : List Char := []

namespace Draft

/-- One more character of the field. -/
def put (d : Draft) (c : Char) : Draft := { d with field := d.field ++ [c] }

/-- The fields when the one that is being read ends. -/
def record (d : Draft) : List String := d.fields ++ [String.ofList d.field]

/-- The field ends and another one begins. -/
def next (d : Draft) : Draft := ⟨d.record, []⟩

end Draft

/-- A character that ends a record. -/
def isLineEnd (c : Char) : Bool := c == '\r' || c == '\n'

/-- The records of a text, read on from a place in a record. -/
def readFrom (p : Place) (d : Draft) : List Char → List (List String)
  | [] => if p = .outside then [] else [d.record]
  | c :: r =>
    if p = .quoted then
      if c = '"' then readFrom .closing d r else readFrom .quoted (d.put c) r
    else if c = ',' then readFrom .opening d.next r
    else if isLineEnd c then
      if p = .outside then readFrom .outside {} r else d.record :: readFrom .outside {} r
    else if c = '"' ∧ p ≠ .bare then
      readFrom .quoted (if p = .closing then d.put c else d) r
    else readFrom .bare (d.put c) r

/-- The records of a text. -/
def read (s : String) : List (List String) := readFrom .outside {} s.toList

end Csv

/-! ## Fields -/

/-- A field that may say that there is nothing to read. -/
def readOptional? (absent : String) (read? : String → Option α) (s : String) :
    Option (Option α) :=
  if s = absent then some none else (read? s).map some

/-- A byte in base ten. -/
def readByte? (s : String) : Option UInt8 :=
  (readNat? s.toList).bind fun n => if n < 256 then some (UInt8.ofNat n) else none

/-- Guardrails from one field. -/
def readGuardrails? (s : String) : Option (List Guardrail) :=
  if s = "" then some []
  else (s.toList.splitOn '|').mapM fun name => Guardrail.ofText? (String.ofList name)

/-- What the table tells about a line, but for the variance, which it rounds, and the instant. -/
structure AuditEntry where
  invoiceId : String
  lineNum : Int
  poLine : Option PoLineRef
  strategy : Option Strategy
  rawConfidence : UInt8
  confidence : UInt8
  band : ConfidenceBand
  status : MatchStatus
  varianceKind : VarianceKind
  guardrails : List Guardrail
  eligibility : Eligibility
  forcedBy : List Guardrail
  threshold : UInt8
  invoiceEligibility : Eligibility
  invoiceBand : Option ConfidenceBand
  deriving DecidableEq, Repr

namespace AuditEntry

/-- What there is to tell about a line of a report. -/
def ofLine (r : Report) (l : LineReport) : AuditEntry where
  invoiceId := l.result.invoiceId
  lineNum := l.result.lineNum
  poLine := l.result.poLine
  strategy := l.result.strategy
  rawConfidence := l.result.rawConfidence
  confidence := l.result.confidence
  band := l.decision.band
  status := l.result.status
  varianceKind := l.result.varianceKind
  guardrails := l.result.guardrails
  eligibility := l.decision.eligibility
  forcedBy := l.decision.forcedBy
  threshold := l.decision.threshold
  invoiceEligibility := r.decision.eligibility
  invoiceBand := r.band

/-- Read the fields of a record. -/
def ofFields? : List String → Option AuditEntry
  | [invoiceId, lineNum, poNumber, poLine, strategy, rawConfidence, confidence, band, status,
      varianceKind, _, guardrails, eligibility, forcedBy, threshold, invoiceEligibility,
      invoiceBand, _] => do
    let poLineNum ← readOptional? "" (fun s => readInt? s.toList) poLine
    some {
      invoiceId := invoiceId
      lineNum := ← readInt? lineNum.toList
      poLine := poLineNum.map fun n => ⟨poNumber, n⟩
      strategy := ← readOptional? "none" Strategy.ofText? strategy
      rawConfidence := ← readByte? rawConfidence
      confidence := ← readByte? confidence
      band := ← ConfidenceBand.ofText? band
      status := ← MatchStatus.ofText? status
      varianceKind := ← VarianceKind.ofText? varianceKind
      guardrails := ← readGuardrails? guardrails
      eligibility := ← Eligibility.ofText? eligibility
      forcedBy := ← readGuardrails? forcedBy
      threshold := ← readByte? threshold
      invoiceEligibility := ← Eligibility.ofText? invoiceEligibility
      invoiceBand := ← readOptional? "" ConfidenceBand.ofText? invoiceBand }
  | _ => none

end AuditEntry

/-- The field of a record in the column of a name. -/
def Report.column? (name : String) (fields : List String) : Option String :=
  (Report.columns.zip fields).lookup name

end Payables
