import Payables.Proofs.Evaluation.Stages
import Payables.Proofs.Matching.Prior
import Payables.Proofs.Matching.Priority

/-!
# Matching is an injection

Whatever prior is given, a successful evaluation reads its outcomes off one coherent board
(`exists_board`), so no line is lost, no line of the purchase order is used twice, and statuses and
claims go together (`evaluateWithPrior_injective`).
-/

namespace Payables

/-- A result that fits its snapshot: what it claims is the snapshot's own, its status says whether
it claims anything, and its numbers are in range. -/
structure MatchResult.Fits (s : Snapshot) (r : MatchResult) : Prop where
  ownLine : ∀ ref, r.poLine = some ref → ∃ po q, s.header.poNumber = some po.poNumber ∧
    s.purchaseOrder = some po ∧ q ∈ po.lines ∧ ref = po.lineRef q.lineNum
  resolved_iff : (r.status = .matched ∨ r.status = .shortfall ∨ r.status = .exception) ↔
    r.poLine.isSome = true ∧ r.strategy.isSome = true
  unresolved_iff : (r.status = .unmatched ∨ r.status = .unplanned) ↔
    r.poLine = none ∧ r.strategy = none
  confidence_le : r.confidence ≤ r.rawConfidence
  raw_le : r.rawConfidence ≤ 100
  within : r.status = .matched →
    ∃ strategy, r.strategy = some strategy ∧ r.variancePct.abs.le strategy.tolerance = true
  unplanned_iff : r.status = .unplanned ↔ s.header.poNumber = none

namespace Snapshot

variable {s : Snapshot} {prior : List MatchResult} {os : List LineOutcome} {p : GuardrailPolicy}
  {t : Threshold} {e : Evaluation}

/-! ## The board behind the outcomes -/

/-- Outcomes are read off a board: coherent, with nothing left to do, the lines of the purchase
order on it and claims for the lines of the invoice. -/
structure OutcomesOf (s : Snapshot) (po : PurchaseOrder) (b : Board) (os : List LineOutcome) :
    Prop where
  named : s.header.poNumber = some po.poNumber
  supplied : s.purchaseOrder = some po
  valid : po.Valid
  coherent : b.Coherent
  entries : b.entries = (Board.ofOrder po s.receipts).entries
  receipts : b.receipts = s.receipts
  settled : b.Settled s.lines
  onInvoice : ∀ c ∈ b.claims, ∃ l ∈ s.lines, l.lineNum = c.lineNum
  outcomes : os = s.lines.map b.outcome

/-- What is played on a board with an accepted prior is such a board. -/
theorem outcomesOf_play (hv : s.Valid) {po : PurchaseOrder} {seeded : Board}
    (hcheck : MatchResult.checkPrior s [] prior = .ok ())
    (hn : s.header.poNumber = some po.poNumber) (hp : s.purchaseOrder = some po) (hpo : po.Valid)
    (hseed : (Board.ofOrder po s.receipts).seed po.poNumber prior = .ok seeded) :
    s.OutcomesOf po (seeded.play s.lines) (s.lines.map (seeded.play s.lines).outcome) := by
  have hcoherent := Board.seed_coherent hcheck hseed
  have hext := Board.play_extended hcoherent s.lines
  obtain ⟨hentries, hreceipts⟩ : seeded.entries = (Board.ofOrder po s.receipts).entries ∧
      seeded.receipts = s.receipts := by
    obtain ⟨-, -, rfl⟩ := Board.seed_eq_ok_iff.1 hseed
    exact ⟨rfl, rfl⟩
  exact
    { named := hn
      supplied := hp
      valid := hpo
      coherent := Board.play_coherent hcoherent _
      entries := hext.entries.trans hentries
      receipts := hext.receipts.trans hreceipts
      settled := Board.play_settled hcoherent hv.lineNums_nodup
      onInvoice := Board.play_onLines hcoherent (Board.seed_onLines hcheck hseed)
      outcomes := rfl }

/-- **The board behind the outcomes.** -/
theorem exists_board (hv : s.Valid) (h : s.matchWithPrior prior = .ok os) :
    (s.header.poNumber = none ∧ os = s.lines.map fun _ => .unplanned) ∨
      ∃ po b, s.OutcomesOf po b os := by
  obtain ⟨hcheck, ⟨hn, -, rfl⟩ | ⟨number, po, seeded, hn, hp, hseed, rfl⟩⟩ :=
    matchWithPrior_eq_ok_iff.1 h
  · exact Or.inl ⟨hn, rfl⟩
  · obtain ⟨rfl, hpo⟩ := hv.supplied hn hp
    exact Or.inr ⟨po, _, outcomesOf_play hv hcheck hn hp hpo hseed⟩

theorem OutcomesOf.outcome_eq {po : PurchaseOrder} {b : Board} (h : s.OutcomesOf po b os) {i : ℕ}
    {l : InvoiceLine} {o : LineOutcome} (hl : s.lines[i]? = some l) (ho : os[i]? = some o) :
    o = b.outcome l := by
  rw [h.outcomes, List.getElem?_map, hl] at ho
  exact (Option.some.inj ho).symm

/-- A result carries the claim of its line, in full. -/
theorem LineEvaluated.claim_eq {po : PurchaseOrder} {b : Board} (hb : s.OutcomesOf po b os)
    {l : InvoiceLine} {scored r : MatchResult} {d : Decision}
    (h : s.LineEvaluated p t l (b.outcome l) scored r d) :
    r.poLine = (b.assignment? l.lineNum).map (fun a => po.lineRef a.poLine) ∧
      r.claim? = (b.assignment? l.lineNum).map (BoardClaim.mk l.lineNum) := by
  rw [h.result]
  unfold Board.outcome at h
  cases ha : b.assignment? l.lineNum with
  | none =>
    rw [ha] at h
    obtain ⟨hne, -⟩ | ⟨-, rfl⟩ | ⟨_, _, _, hne, -⟩ := InvoiceLine.score_eq_ok_iff.1 h.score
    · cases hne
    · exact ⟨rfl, rfl⟩
    · cases hne
  | some a =>
    rw [ha] at h
    obtain ⟨hne, -⟩ | ⟨hne, -⟩ | ⟨a', order, q, ha', horder, hq, rfl⟩ :=
      InvoiceLine.score_eq_ok_iff.1 h.score
    · cases hne
    · cases hne
    · cases ha'
      obtain rfl : order = po := Option.some.inj (horder.symm.trans hb.supplied)
      have hnum := (PurchaseOrder.mem_of_line?_eq_some hq).2
      constructor
      · simp [InvoiceLine.assignedResult, PurchaseOrder.lineRef, hnum]
      · simp [InvoiceLine.assignedResult, MatchResult.claim?, InvoiceLine.unmatchedResult, hnum]

/-! ## The whole evaluation -/

/-- The outcome of a line is unplanned exactly without a purchase order. -/
theorem outcome_unplanned_iff (hv : s.Valid) (h : s.matchWithPrior prior = .ok os) {i : ℕ}
    {o : LineOutcome} (ho : os[i]? = some o) : o = .unplanned ↔ s.header.poNumber = none := by
  rcases exists_board hv h with ⟨hn, rfl⟩ | ⟨po, b, hb⟩
  · rw [List.getElem?_map] at ho
    obtain ⟨l, -, rfl⟩ := Option.map_eq_some_iff.1 ho
    simp [hn]
  · have hi : i < os.length := (List.getElem?_eq_some_iff.1 ho).1
    rw [length_of_matchWithPrior h] at hi
    rw [hb.outcome_eq (List.getElem?_eq_getElem hi) ho, hb.named]
    unfold Board.outcome
    split <;> simp

theorem LineEvaluated.fits (hv : s.Valid) (hos : s.matchWithPrior prior = .ok os) {i : ℕ}
    {l : InvoiceLine} {o : LineOutcome} {scored r : MatchResult} {d : Decision}
    (hl : s.lines[i]? = some l) (ho : os[i]? = some o) (h : s.LineEvaluated p t l o scored r d) :
    r.Fits s where
  ownLine := by
    intro ref href
    rcases exists_board hv hos with ⟨hn, -⟩ | ⟨po, b, hb⟩
    · have hunplanned := (outcome_unplanned_iff hv hos ho).2 hn
      have hstatus := (InvoiceLine.score_unplanned_iff h.score).2 hunplanned
      have hnone := (h.consistent.unresolved (by rw [h.result]; simp [hstatus]; rfl)).1
      rw [hnone] at href
      cases href
    · obtain rfl := hb.outcome_eq hl ho
      rw [(h.claim_eq hb).1] at href
      obtain ⟨a, ha, rfl⟩ := Option.map_eq_some_iff.1 href
      have hclaim := hb.coherent.assignment?_eq_some_iff.1 ha
      obtain ⟨x, hx, hnum⟩ := Board.hasLine_iff.1 (hb.coherent.hasLine _ hclaim)
      rw [hb.entries] at hx
      obtain ⟨q, hq, rfl⟩ := Board.mem_entries_ofOrder.1 hx
      exact ⟨po, q, hb.named, hb.supplied, hq, by rw [hnum]⟩
  resolved_iff := by
    rw [← h.consistent.resolved_iff]
    cases r.status <;> simp [MatchStatus.isResolved]
  unresolved_iff := by
    rw [← h.consistent.unresolved_iff]
    cases r.status <;> simp [MatchStatus.isResolved]
  confidence_le := h.consistent.confidence_le
  raw_le := h.consistent.raw_le
  within := h.consistent.within
  unplanned_iff := by
    rw [← outcome_unplanned_iff hv hos ho, ← InvoiceLine.score_unplanned_iff h.score, h.result]

/-- Two results that carry the same line of the purchase order are one. -/
theorem eq_of_poLine_eq (h : s.evaluateWithPrior prior p t = .ok e) {i j : ℕ}
    {r r' : MatchResult} (hi : e.results[i]? = some r) (hj : e.results[j]? = some r')
    {ref : PoLineRef} (hr : r.poLine = some ref) (hr' : r'.poLine = some ref) : i = j := by
  obtain ⟨hv, os, hos⟩ := exists_outcomes h
  obtain ⟨l, o, scored, d, hl, ho, hline⟩ := exists_line_of_result h hos hi
  obtain ⟨m, o', scored', d', hm, ho', hline'⟩ := exists_line_of_result h hos hj
  rcases exists_board hv hos with ⟨hn, -⟩ | ⟨po, b, hb⟩
  · -- without a purchase order no result carries a line
    have hunplanned := (hline.fits hv hos hl ho).unplanned_iff.2 hn
    have hnone := (hline.fits hv hos hl ho).unresolved_iff.1 (Or.inr hunplanned)
    rw [hnone.1] at hr
    cases hr
  · obtain rfl := hb.outcome_eq hl ho
    obtain rfl := hb.outcome_eq hm ho'
    rw [(hline.claim_eq hb).1] at hr
    rw [(hline'.claim_eq hb).1] at hr'
    obtain ⟨a, ha, rfl⟩ := Option.map_eq_some_iff.1 hr
    obtain ⟨a', ha', heq⟩ := Option.map_eq_some_iff.1 hr'
    have hnum : l.lineNum = m.lineNum :=
      hb.coherent.eq_of_poLine_eq ha ha' (congrArg PoLineRef.lineNum heq).symm
    have hlt := (List.getElem?_eq_some_iff.1 hl).1
    refine (List.getElem?_inj (by simpa using hlt) hv.lineNums_nodup).1 ?_
    rw [List.getElem?_map, List.getElem?_map, hl, hm, Option.map_some, Option.map_some, hnum]

/-- **Matching is an injection, and no line is lost.**  Results and decisions stand in the places of
the invoice lines, no line of the purchase order is carried by two results, and every result fits
the snapshot. -/
theorem evaluateWithPrior_injective (h : s.evaluateWithPrior prior p t = .ok e) :
    e.results.length = s.lines.length ∧ e.decisions.length = s.lines.length ∧
      (∀ (i : ℕ) (l : InvoiceLine), s.lines[i]? = some l →
        ∃ r d, e.results[i]? = some r ∧ e.decisions[i]? = some d ∧ r.lineNum = l.lineNum ∧
          r.invoiceId = l.invoiceId ∧ d.lineNum = l.lineNum) ∧
      (∀ (i j : ℕ) (r r' : MatchResult) (ref : PoLineRef), e.results[i]? = some r →
        e.results[j]? = some r' → r.poLine = some ref → r'.poLine = some ref → i = j) ∧
      ∀ r ∈ e.results, r.Fits s := by
  obtain ⟨hv, os, hos⟩ := exists_outcomes h
  obtain ⟨hresults, hdecisions⟩ := length_of_evaluateWithPrior h
  refine ⟨hresults, hdecisions, ?_, ?_, ?_⟩
  · intro i l hl
    obtain ⟨o, scored, r, d, -, hr, hd, hline⟩ := evaluateWithPrior_line h hos hl
    obtain ⟨hnum, hid⟩ := InvoiceLine.score_identity hline.score
    obtain ⟨tr, -, rfl⟩ := hline.decision
    have hrnum : r.lineNum = l.lineNum := by rw [hline.result, ← hnum]
    exact ⟨r, _, hr, hd, hrnum, by rw [hline.result, ← hid], hrnum⟩
  · intro i j r r' ref hi hj hr hr'
    exact eq_of_poLine_eq h hi hj hr hr'
  · intro r hr
    obtain ⟨i, hi⟩ := List.getElem?_of_mem hr
    obtain ⟨l, o, scored, d, hl, ho, hline⟩ := exists_line_of_result h hos hi
    exact hline.fits hv hos hl ho

/-! ## An office order

An order of two lines and an invoice of two: the first names the line that the second resembles. -/

/-- The order. -/
def officeOrder : PurchaseOrder where
  poNumber := "P-2"
  vendorId := "V-1"
  created := ⟨2024, 1, 1⟩
  lines := [⟨"P-2", 10, "copper wire", Decimal.ofInt 5, Decimal.ofInt 7, none, none⟩,
    ⟨"P-2", 20, "white paper", Decimal.ofInt 3, Decimal.ofInt 4, none, none⟩]

/-- An invoice line of the order. -/
def officeLine (n : ℤ) (description : String) (poLineRef : Option ℤ) : InvoiceLine where
  invoiceId := "I-2"
  lineNum := n
  description := description
  quantity := Decimal.ofInt 3
  unit := "EA"
  unitPrice := Decimal.ofInt 4
  amount := Decimal.ofInt 12
  poLineRef := poLineRef
  receiptRef := none
  materialCode := none

/-- The invoice with its order. -/
def office : Snapshot where
  header := ⟨"I-2", "V-1", "R-2", ⟨2024, 1, 2⟩, some "P-2", "USD"⟩
  lines := [officeLine 2 "white paper" none, officeLine 1 "sundries" (some 20)]
  purchaseOrder := some officeOrder

set_option maxRecDepth 4000 in
theorem office_evaluates : ∃ e, office.evaluate .default .default = .ok e :=
  exists_ok_of_isSome (by decide +kernel)

/-- A result that gives the first line of the order to the sundries of the office invoice. -/
def sundriesResult : MatchResult where
  invoiceId := "I-2"
  lineNum := 1
  poLine := some ⟨"P-2", 10⟩
  strategy := some .keyBased
  rawConfidence := 100
  confidence := 60
  status := .exception
  varianceKind := .price
  variancePct := Binary64.ofInt (-43)
  guardrails := []

set_option maxRecDepth 4000 in
/-- The sundries keep the line that they were given before, the white paper takes the other one, and
both results fit. -/
theorem office_injective :
    ∃ e, office.evaluateWithPrior [sundriesResult] .default .default = .ok e ∧
      e.results.length = 2 ∧ e.decisions.length = 2 ∧
      e.results.map (fun r => (r.lineNum, r.poLine)) =
        [(2, some ⟨"P-2", 20⟩), (1, some ⟨"P-2", 10⟩)] ∧
      (∀ (i : ℕ) (l : InvoiceLine), office.lines[i]? = some l →
        ∃ r d, e.results[i]? = some r ∧ e.decisions[i]? = some d ∧ r.lineNum = l.lineNum ∧
          r.invoiceId = l.invoiceId ∧ d.lineNum = l.lineNum) ∧
      (∀ r ∈ e.results, r.Fits office) := by
  have hclaims : (office.evaluateWithPrior [sundriesResult] .default .default).toOption.map
      (fun e => e.results.map fun r => (r.lineNum, r.poLine)) =
        some [(2, some ⟨"P-2", 20⟩), (1, some ⟨"P-2", 10⟩)] := by decide +kernel
  obtain ⟨e, he, hclaims⟩ := exists_ok_of_map_eq hclaims
  obtain ⟨hresults, hdecisions, hlines, -, hfits⟩ := evaluateWithPrior_injective he
  exact ⟨e, he, hresults, hdecisions, hclaims, hlines, hfits⟩

end Snapshot
end Payables
