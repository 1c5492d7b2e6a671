import Payables.Proofs.Decimal.Digits
import Payables.Report.Reader

/-!
# The audit table tells everything

* `Csv.read_write` — what is written is read back record by record and field by field, whatever
  the characters of the fields.  Each field leads the reader through its own quotes to a place
  where a separator ends it (`readFrom_writeField`).
* `readOptional?_getD`, `readGuardrails?_joinGuardrails` — what is absent cannot be taken for
  something that is there, and a joined list comes apart at its bars: no guardrail has a bar in its
  name.
* `Report.csv_faithful` — the table has one record for each line of each report, and each record
  tells what the line and its decision are.
-/

namespace Payables

namespace Csv

/-! ## One character -/

variable {p : Place} {d : Draft} {c : Char} {r : List Char}

theorem readFrom_quoted (h : c ≠ '"') :
    readFrom .quoted d (c :: r) = readFrom .quoted (d.put c) r := by
  simp [readFrom, h]

theorem readFrom_quoted_quote :
    readFrom .quoted d ('"' :: r) = readFrom .closing d r := by
  simp [readFrom]

theorem readFrom_closing_quote :
    readFrom .closing d ('"' :: r) = readFrom .quoted (d.put '"') r := by
  simp [readFrom, isLineEnd]

theorem readFrom_opening_quote :
    readFrom .opening d ('"' :: r) = readFrom .quoted d r := by
  simp [readFrom, isLineEnd]

/-- Outside quotes a character that is not special belongs to the field. -/
theorem readFrom_put (hp : p ≠ .quoted) (hc : isSpecial c = false) :
    readFrom p d (c :: r) = readFrom .bare (d.put c) r := by
  simp only [isSpecial, Bool.or_eq_false_iff, beq_eq_false_iff_ne, ne_eq] at hc
  simp [readFrom, isLineEnd, hp, hc]

theorem readFrom_comma (hp : p ≠ .quoted) :
    readFrom p d (',' :: r) = readFrom .opening d.next r := by
  simp [readFrom, hp]

theorem readFrom_lineEnd (hp : p ≠ .quoted) (hout : p ≠ .outside) :
    readFrom p d ('\n' :: r) = d.record :: readFrom .outside {} r := by
  simp [readFrom, isLineEnd, hp, hout]

/-- A record begins with the first character that ends no line. -/
theorem readFrom_outside (hc : isLineEnd c = false) :
    readFrom .outside d (c :: r) = readFrom .opening d (c :: r) := by
  simp [readFrom, hc]

/-! ## One field -/

/-- A place at which a separator ends the field. -/
def Place.Ends (p : Place) : Prop := p ≠ .quoted ∧ p ≠ .outside

/-- Between quotes every character is read, a quote from its two halves. -/
theorem readFrom_doubleQuotes (d : Draft) (cs r : List Char) :
    readFrom .quoted d (doubleQuotes cs ++ '"' :: r) =
      readFrom .closing ⟨d.fields, d.field ++ cs⟩ r := by
  induction cs generalizing d with
  | nil => simp [doubleQuotes, readFrom_quoted_quote]
  | cons c cs ih =>
    by_cases hc : c = '"'
    · simp only [doubleQuotes, hc, if_true, List.cons_append, readFrom_quoted_quote,
        readFrom_closing_quote, ih]
      simp [Draft.put]
    · simp only [doubleQuotes, if_neg hc, List.cons_append, readFrom_quoted hc, ih]
      simp [Draft.put]

/-- Without quotes the characters are read as they stand, and the field ends behind them. -/
theorem readFrom_bare {cs : List Char} (hcs : ∀ c ∈ cs, isSpecial c = false) (hp : p.Ends)
    (d : Draft) : ∃ p' : Place, p'.Ends ∧
      ∀ r, readFrom p d (cs ++ r) = readFrom p' ⟨d.fields, d.field ++ cs⟩ r := by
  induction cs generalizing p d with
  | nil => exact ⟨p, hp, fun r => by simp⟩
  | cons c cs ih =>
    have hbare : Place.Ends .bare := ⟨nofun, nofun⟩
    obtain ⟨p', hp', hread⟩ := ih (fun x hx => hcs x (List.mem_cons_of_mem c hx)) hbare (d.put c)
    refine ⟨p', hp', ?_⟩
    intro r
    rw [List.cons_append, readFrom_put hp.1 (hcs c List.mem_cons_self), hread]
    simp [Draft.put]

/-- **A field is read back**, and the reader stands where a separator ends it. -/
theorem readFrom_writeField (fields : List String) (f : String) : ∃ p : Place, p.Ends ∧
    ∀ r, readFrom .opening ⟨fields, []⟩ (writeField f ++ r) = readFrom p ⟨fields, f.toList⟩ r := by
  unfold writeField
  by_cases hspecial : f.toList.any isSpecial = true
  · refine ⟨.closing, ⟨nofun, nofun⟩, ?_⟩
    intro r
    have hclosed : '"' :: doubleQuotes f.toList ++ ['"'] ++ r =
        '"' :: (doubleQuotes f.toList ++ '"' :: r) := by simp
    rw [if_pos hspecial, hclosed, readFrom_opening_quote, readFrom_doubleQuotes, List.nil_append]
  · rw [if_neg hspecial]
    have hplain : ∀ c ∈ f.toList, isSpecial c = false := by simpa using hspecial
    have hopening : Place.Ends .opening := ⟨nofun, nofun⟩
    exact readFrom_bare hplain hopening ⟨fields, []⟩

/-! ## Records -/

theorem writeFields_cons (f g : String) (gs : List String) :
    writeFields (f :: g :: gs) = writeField f ++ ',' :: writeFields (g :: gs) := rfl

/-- The line end closes the record behind its last field. -/
theorem readFrom_writeFields (fields : List String) (f : String) (fs : List String)
    (r : List Char) :
    readFrom .opening ⟨fields, []⟩ (writeFields (f :: fs) ++ '\n' :: r) =
      (fields ++ f :: fs) :: readFrom .outside {} r := by
  induction fs generalizing fields f with
  | nil =>
    obtain ⟨p, hp, hread⟩ := readFrom_writeField fields f
    rw [writeFields, hread, readFrom_lineEnd hp.1 hp.2, Draft.record, String.ofList_toList]
  | cons g gs ih =>
    obtain ⟨p, hp, hread⟩ := readFrom_writeField fields f
    rw [writeFields_cons, List.append_assoc, List.cons_append, hread, readFrom_comma hp.1]
    rw [Draft.next, Draft.record, String.ofList_toList, ih]
    simp

/-- A field and the comma behind it do not begin with a line end. -/
theorem exists_head_writeField (f : String) (cs : List Char) :
    ∃ c rest, writeField f ++ ',' :: cs = c :: rest ∧ isLineEnd c = false := by
  unfold writeField
  by_cases hspecial : f.toList.any isSpecial = true
  · rw [if_pos hspecial]
    exact ⟨'"', _, rfl, by decide⟩
  · rw [if_neg hspecial]
    cases hf : f.toList with
    | nil => exact ⟨',', cs, rfl, by decide⟩
    | cons c rest =>
      have hc : isSpecial c = false := by
        rw [hf, List.any_cons] at hspecial
        simp_all
      refine ⟨c, _, rfl, ?_⟩
      simp only [isSpecial, Bool.or_eq_false_iff] at hc
      simp [isLineEnd, hc]

/-- A record of two fields or more does not look like an empty line. -/
theorem readFrom_writeRecord {fields : List String} (h : 2 ≤ fields.length) (r : List Char) :
    readFrom .outside {} (writeRecord fields ++ r) = fields :: readFrom .outside {} r := by
  obtain ⟨f, g, gs, rfl⟩ : ∃ f g gs, fields = f :: g :: gs := by
    match fields, h with
    | f :: g :: gs, _ => exact ⟨f, g, gs, rfl⟩
  have hrecord := readFrom_writeFields [] f (g :: gs) r
  rw [writeRecord, List.append_assoc, List.singleton_append]
  rw [writeFields_cons, List.append_assoc, List.cons_append] at hrecord ⊢
  obtain ⟨c, rest, heq, hc⟩ := exists_head_writeField f (writeFields (g :: gs) ++ '\n' :: r)
  rw [heq] at hrecord ⊢
  rw [readFrom_outside hc]
  exact hrecord

/-- **Reading inverts writing** for records of two fields or more. -/
theorem read_write {records : List (List String)} (h : ∀ fields ∈ records, 2 ≤ fields.length) :
    read (write records) = records := by
  rw [read, write, String.toList_ofList]
  induction records with
  | nil => rfl
  | cons fields records ih =>
    rw [List.flatMap_cons, readFrom_writeRecord (h fields List.mem_cons_self),
      ih fun x hx => h x (List.mem_cons_of_mem fields hx)]

end Csv

/-! ## Fields that may be absent -/

section Optional

variable {α : Type} {text : α → String} {absent : String}

theorem getD_map_eq_iff (hpresent : ∀ x, text x ≠ absent) (o : Option α) :
    (o.map text).getD absent = absent ↔ o = none := by
  cases o with
  | none => simp
  | some x => simp [hpresent x]

theorem readOptional?_getD (read? : String → Option α) (hread : ∀ x, read? (text x) = some x)
    (hpresent : ∀ x, text x ≠ absent) (o : Option α) :
    readOptional? absent read? ((o.map text).getD absent) = some o := by
  cases o with
  | none => simp [readOptional?]
  | some x => simp [readOptional?, hpresent x, hread x]

end Optional

theorem readByte?_byteText (b : UInt8) : readByte? (Report.byteText b) = some b := by
  have hlt : b.toNat < 256 := b.toNat_lt
  simp [readByte?, Report.byteText, natText, readNat?_natDigits, hlt]

theorem intText_ne_empty (n : ℤ) : intText n ≠ "" := by
  intro h
  have hread := readInt?_intText n
  rw [h] at hread
  exact absurd hread (by simp [readInt?, readNat?])

theorem Strategy.text_ne_none (s : Strategy) : s.text ≠ "none" := by cases s <;> decide

theorem ConfidenceBand.text_ne_empty (b : ConfidenceBand) : b.text ≠ "" := by cases b <;> decide

/-! ## Lists of guardrails -/

theorem Guardrail.bar_not_mem_text (g : Guardrail) : '|' ∉ g.text.toList := by cases g <;> decide

theorem Guardrail.toList_text_ne_nil (g : Guardrail) : g.text.toList ≠ [] := by
  cases g <;> decide

namespace Report

/-- No name has a bar in it, so a joined list comes apart into its names. -/
theorem splitOn_joinGuardrails {ids : List Guardrail} (h : ids ≠ []) :
    (joinGuardrails ids).toList.splitOn '|' = ids.map fun g => g.text.toList := by
  have hnames : ∀ name ∈ ids.map (fun g => g.text.toList), '|' ∉ name := by
    simpa using fun g _ => g.bar_not_mem_text
  have hjoined : (joinGuardrails ids).toList =
      List.intercalate ['|'] (ids.map fun g => g.text.toList) := by
    simp [joinGuardrails, String.toList_intercalate, Function.comp_def]
  rw [hjoined, List.splitOn_intercalate '|' hnames (by simpa using h)]

theorem joinGuardrails_eq_empty_iff (ids : List Guardrail) :
    joinGuardrails ids = "" ↔ ids = [] := by
  refine ⟨?_, fun h => by simp [h, joinGuardrails]⟩
  intro hempty
  by_contra hne
  have hsplit := splitOn_joinGuardrails hne
  cases ids with
  | nil => exact hne rfl
  | cons g ids =>
    simp only [hempty, String.toList_empty, List.splitOn_nil, List.map_cons,
      List.cons.injEq] at hsplit
    exact g.toList_text_ne_nil hsplit.1.symm

end Report

theorem readGuardrails?_joinGuardrails (ids : List Guardrail) :
    readGuardrails? (Report.joinGuardrails ids) = some ids := by
  by_cases hids : ids = []
  · simp [hids, readGuardrails?, Report.joinGuardrails]
  · have hne : Report.joinGuardrails ids ≠ "" :=
      fun h => hids ((Report.joinGuardrails_eq_empty_iff ids).1 h)
    rw [readGuardrails?, if_neg hne, Report.splitOn_joinGuardrails hids, List.mapM_map]
    have hname : (fun name => Guardrail.ofText? (String.ofList name)) ∘
        (fun g : Guardrail => g.text.toList) = fun g => pure (id g) := by
      funext g
      simp
    rw [hname, List.mapM_pure, List.map_id]
    rfl

/-! ## Records of lines -/

namespace AuditEntry

/-- **A record tells everything about its line** that it has a column for. -/
theorem ofFields?_record (r : Report) (l : LineReport) :
    ofFields? (r.record l) = some (ofLine r l) := by
  have hline : readOptional? "" (fun s => readInt? s.toList)
      ((l.result.poLine.map fun ref => intText ref.lineNum).getD "") =
        some (l.result.poLine.map PoLineRef.lineNum) := by
    have hread := readOptional?_getD (fun s => readInt? s.toList) readInt?_intText intText_ne_empty
      (l.result.poLine.map PoLineRef.lineNum)
    rwa [Option.map_map] at hread
  have hpoLine : ((l.result.poLine.map PoLineRef.lineNum).map fun n =>
      PoLineRef.mk ((l.result.poLine.map PoLineRef.poNumber).getD "") n) = l.result.poLine := by
    cases l.result.poLine <;> rfl
  have hstrategy := readOptional?_getD Strategy.ofText? Strategy.ofText?_text
    Strategy.text_ne_none l.result.strategy
  have hband := readOptional?_getD ConfidenceBand.ofText? ConfidenceBand.ofText?_text
    ConfidenceBand.text_ne_empty r.band
  simp only [Report.record, ofFields?, hline, hpoLine, hstrategy, hband, readInt?_intText,
    readByte?_byteText, readGuardrails?_joinGuardrails, ConfidenceBand.ofText?_text,
    MatchStatus.ofText?_text, VarianceKind.ofText?_text, Eligibility.ofText?_text,
    Option.bind_eq_bind, Option.bind_some]
  rfl

end AuditEntry

namespace Report

theorem length_record (r : Report) (l : LineReport) : (r.record l).length = 18 := rfl

/-- Which fields of a record say that there is nothing to tell. -/
theorem column?_absent (r : Report) (l : LineReport) :
    (column? "po_line" (r.record l) = some "" ↔ l.result.poLine = none) ∧
    (column? "strategy" (r.record l) = some "none" ↔ l.result.strategy = none) ∧
    (column? "guardrails" (r.record l) = some "" ↔ l.result.guardrails = []) ∧
    (column? "forced_by" (r.record l) = some "" ↔ l.decision.forcedBy = []) ∧
    (column? "invoice_band" (r.record l) = some "" ↔ r.band = none) := by
  have hpoLine := getD_map_eq_iff (fun ref : PoLineRef => intText_ne_empty ref.lineNum)
    l.result.poLine
  have hstrategy := getD_map_eq_iff Strategy.text_ne_none l.result.strategy
  have hband := getD_map_eq_iff ConfidenceBand.text_ne_empty r.band
  simp [column?, columns, record, List.lookup, hpoLine, hstrategy, hband,
    joinGuardrails_eq_empty_iff]

theorem length_of_mem_records {rs : List Report} {fields : List String} (h : fields ∈ records rs) :
    fields.length = 18 := by
  obtain ⟨r, -, hfields⟩ := List.mem_flatMap.1 h
  obtain ⟨l, -, rfl⟩ := List.mem_map.1 hfields
  exact length_record r l

/-- The names of the columns come first, and the records behind them as they were made. -/
theorem read_csv (rs : List Report) : Csv.read (csv rs) = columns :: records rs := by
  refine Csv.read_write ?_
  intro fields hfields
  rcases List.mem_cons.1 hfields with rfl | hfields
  · decide
  · simp [length_of_mem_records hfields]

/-- **The table is a faithful account of the reports.**  Read back it has the names of the columns
and one record of eighteen fields for each line, report by report; each record tells everything
about its line but the rounded variance and the instant, whatever the characters of the names, and
what is absent cannot be taken for something that is there. -/
theorem csv_faithful (rs : List Report) :
    Csv.read (csv rs) = columns :: rs.flatMap (fun r => r.lines.map r.record) ∧
      (∀ fields ∈ Csv.read (csv rs), fields.length = 18) ∧
      (Csv.read (csv rs)).tail.map AuditEntry.ofFields? =
        rs.flatMap (fun r => r.lines.map fun l => some (AuditEntry.ofLine r l)) ∧
      ∀ (r : Report) (l : LineReport),
        (column? "po_line" (r.record l) = some "" ↔ l.result.poLine = none) ∧
        (column? "strategy" (r.record l) = some "none" ↔ l.result.strategy = none) ∧
        (column? "guardrails" (r.record l) = some "" ↔ l.result.guardrails = []) ∧
        (column? "forced_by" (r.record l) = some "" ↔ l.decision.forcedBy = []) ∧
        (column? "invoice_band" (r.record l) = some "" ↔ r.band = none) := by
  rw [read_csv]
  refine ⟨rfl, ?_, ?_, column?_absent⟩
  · intro fields hfields
    rcases List.mem_cons.1 hfields with rfl | hfields
    · rfl
    · exact length_of_mem_records hfields
  · have hentry (r : Report) : AuditEntry.ofFields? ∘ r.record =
        fun l => some (AuditEntry.ofLine r l) := funext (AuditEntry.ofFields?_record r)
    simp only [List.tail_cons, records, List.map_flatMap, List.map_map, hentry]

/-- A line of an invoice and of an order with separators, quotes and line ends in their names. -/
def awkwardLine : LineReport where
  result :=
    { invoiceId := "I,\"7\"|\n"
      lineNum := 10
      poLine := some ⟨"P\r\n,1", 20⟩
      strategy := some .semantic
      rawConfidence := 70
      confidence := 65
      status := .matched
      varianceKind := .none
      variancePct := Binary64.zero
      guardrails := [.duplicatePosting, .priceVariance] }
  decision :=
    { lineNum := 10
      eligibility := .blocked
      confidence := 65
      band := .medium
      threshold := 90
      forcedBy := [.duplicatePosting]
      reviewReasons := [] }

/-- A line that nothing is found for. -/
def openLine (invoiceId : String) (n : ℤ) : LineReport where
  result :=
    { invoiceId := invoiceId
      lineNum := n
      poLine := none
      strategy := none
      rawConfidence := 0
      confidence := 0
      status := .unmatched
      varianceKind := .none
      variancePct := Binary64.zero
      guardrails := [] }
  decision :=
    { lineNum := n
      eligibility := .manualReview
      confidence := 0
      band := .low
      threshold := 90
      forcedBy := []
      reviewReasons := [.belowThreshold, .lowBand, .unresolved .unmatched] }

/-- The report on the awkward line and on an open one behind it. -/
def awkwardReport : Report where
  invoiceId := "I,\"7\"|\n"
  lines := [awkwardLine, openLine "I,\"7\"|\n" 5]
  decision := ⟨"I,\"7\"|\n", .blocked, some 65, 90, [.duplicatePosting], []⟩
  score := ⟨some 65, 1, 1⟩
  auditFlags := []
  candidates := []
  evaluatedAt := ⟨⟨2024, 1, 3⟩, 32400, 0⟩

/-- The report on an invoice with no other line than an open one, so without a band. -/
def openReport : Report where
  invoiceId := "I-8"
  lines := [openLine "I-8" 1]
  decision := ⟨"I-8", .manualReview, none, 90, [], []⟩
  score := ⟨none, 0, 1⟩
  auditFlags := []
  candidates := []
  evaluatedAt := ⟨⟨2024, 1, 3⟩, 32400, 0⟩

/-- Names are no danger to the table, and what a line does not have is left out. -/
theorem awkwardReport_tabled :
    ∃ first second third,
      Csv.read (csv [awkwardReport, openReport]) = [columns, first, second, third] ∧
      (∀ fields ∈ [first, second, third], fields.length = 18) ∧
      AuditEntry.ofFields? first = some (AuditEntry.ofLine awkwardReport awkwardLine) ∧
      AuditEntry.ofFields? second =
        some (AuditEntry.ofLine awkwardReport (openLine "I,\"7\"|\n" 5)) ∧
      AuditEntry.ofFields? third = some (AuditEntry.ofLine openReport (openLine "I-8" 1)) ∧
      column? "po_line" first ≠ some "" ∧ column? "guardrails" first ≠ some "" ∧
      column? "po_line" second = some "" ∧ column? "strategy" second = some "none" ∧
      column? "forced_by" second = some "" ∧ column? "invoice_band" second ≠ some "" ∧
      column? "invoice_band" third = some "" := by
  obtain ⟨hread, hlength, htold, habsent⟩ := csv_faithful [awkwardReport, openReport]
  have hlist : Csv.read (csv [awkwardReport, openReport]) =
      [columns, awkwardReport.record awkwardLine, awkwardReport.record (openLine "I,\"7\"|\n" 5),
        openReport.record (openLine "I-8" 1)] := hread
  rw [hlist] at hlength htold
  obtain ⟨hfirst, hrest⟩ := List.cons.inj htold
  obtain ⟨hsecond, hrest⟩ := List.cons.inj hrest
  obtain ⟨hthird, -⟩ := List.cons.inj hrest
  obtain ⟨hpoLine, -, hguardrails, -, -⟩ := habsent awkwardReport awkwardLine
  obtain ⟨hpoLine', hstrategy', -, hforced', hband'⟩ :=
    habsent awkwardReport (openLine "I,\"7\"|\n" 5)
  obtain ⟨-, -, -, -, hband''⟩ := habsent openReport (openLine "I-8" 1)
  refine ⟨_, _, _, hlist, ?_, hfirst, hsecond, hthird, ?_⟩
  · intro fields hfields
    exact hlength fields (List.mem_cons_of_mem _ hfields)
  · exact ⟨hpoLine.not.2 (by decide), hguardrails.not.2 (by decide), hpoLine'.2 rfl,
      hstrategy'.2 rfl, hforced'.2 rfl, hband'.not.2 (by decide), hband''.2 rfl⟩

end Report
end Payables
