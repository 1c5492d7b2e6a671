import Payables.Proofs.Decision.Line
import Payables.Proofs.Evaluation.Errors
import Payables.Proofs.Matching.Reordered

/-!
# The order of the documents does not matter

Matching takes the lines of an invoice one after another and gives each the best line that is still
free, so it could depend on the order in which the documents list things.  It does not: numbers
decide whose turn it is.

* `exists_outcome` — every line of a valid snapshot has an outcome of its own, wherever it stands.
* `recorded_reordered`, `LineEvaluated.reordered` — what happens to the line from there on.
* `exists_same_result` — so every line takes its result and its decision along.
* `evaluate_reordered` — an evaluation of the reordered snapshot succeeds exactly where the original
  one does, and then the invoice as a whole is scored and decided on alike too.
-/

namespace Payables.Snapshot

variable {s s' : Snapshot} {p : GuardrailPolicy} {t : Threshold}

/-! ## Matching and scoring -/

/-- **Every line has an outcome of its own**, wherever the documents list it, and it is scored
alike. -/
theorem exists_outcome (hv : s.Valid) (h : s.Reordered s') :
    ∃ outcome : InvoiceLine → LineOutcome,
      s.matchLines = .ok (s.lines.map outcome) ∧ s'.matchLines = .ok (s'.lines.map outcome) ∧
      ∀ l : InvoiceLine,
        l.score s.purchaseOrder (outcome l) = l.score s'.purchaseOrder (outcome l) := by
  cases hn : s.header.poNumber with
  | none =>
    have hn' : s'.header.poNumber = none := h.header ▸ hn
    exact ⟨fun _ => .unplanned, matchLines_of_unordered hn, matchLines_of_unordered hn',
      fun _ => rfl⟩
  | some number =>
    have hn' : s'.header.poNumber = some number := h.header ▸ hn
    obtain ⟨po, hp, -, hpo, hos⟩ := matchLines_eq_ok hv hn
    obtain ⟨po', hp', -, -, hos'⟩ := matchLines_eq_ok (h.valid hv) hn'
    have hre : po.Reordered po' := by
      have hrel := h.purchaseOrder
      rw [hp, hp'] at hrel
      cases hrel with
      | some hre => exact hre
    -- both boards are dealt and played alike
    have hplayed := (Board.sameReceipts_ofOrder hre hpo h.receipts).play s.lines
      fun _ _ _ _ => trivial
    rw [Board.play_eq_of_perm h.lines hv.lineNums_nodup (Board.ofOrder po' s'.receipts)] at hplayed
    refine ⟨_, hos, hplayed.outcome_eq ▸ hos', ?_⟩
    intro l
    rw [hp, hp']
    exact InvoiceLine.score_eq_of_reordered hre hpo l _

/-! ## One line -/

/-- The same rules fire on a line. -/
theorem recorded_reordered (h : s.Reordered s') (l : InvoiceLine) (r : MatchResult) :
    s.recorded p l r = s'.recorded p l r := by
  have hfires : ∀ g : Guardrail,
      g.fires p.limits s.context l r = g.fires p.limits s'.context l r := by
    intro g
    cases g with
    | duplicatePosting => exact h.isDuplicate_eq
    | vendorPaymentBlock => exact congrArg Vendor.paymentBlock h.vendor
    | invoicePredatesPo => exact h.predatesOrder_eq
    | priceVariance => rfl
    | quantityVariance => rfl
    | partialReceipt =>
      show Guardrail.exceedsReceipt s.received l r = Guardrail.exceedsReceipt s'.received l r
      rw [h.received_eq]
    | vendorReliabilityWatch => exact congrArg (Guardrail.belowWatch p.limits) h.vendor
    | largeUnplannedCost => rfl
  unfold recorded GuardrailPolicy.triggered GuardrailPolicy.firing
  simp only [hfires]

namespace LineEvaluated

variable {l : InvoiceLine} {o : LineOutcome} {scored r scored' r' : MatchResult} {d d' : Decision}

/-- What happens to a line with an outcome happens to it in the other snapshot. -/
theorem reordered (hline : s.LineEvaluated p t l o scored r d) (h : s.Reordered s')
    (hscore : l.score s.purchaseOrder o = l.score s'.purchaseOrder o) :
    s'.LineEvaluated p t l o scored r d where
  score := hscore.symm.trans hline.score
  result := hline.result.trans (recorded_reordered h l scored)
  consistent := hline.consistent
  decision := hline.decision

/-- One thing only can happen to a line with an outcome. -/
theorem unique (hline : s.LineEvaluated p t l o scored r d)
    (hline' : s.LineEvaluated p t l o scored' r' d') : r = r' ∧ d = d' := by
  obtain rfl : scored = scored' := Except.ok.inj (hline.score.symm.trans hline'.score)
  obtain rfl : r = r' := hline.result.trans hline'.result.symm
  obtain ⟨tr, htr, rfl⟩ := hline.decision
  obtain ⟨tr', htr', rfl⟩ := hline'.decision
  obtain rfl : tr = tr' := Except.ok.inj (htr.symm.trans htr')
  exact ⟨rfl, rfl⟩

end LineEvaluated

/-! ## The whole evaluation -/

section Whole

variable {e e' : Evaluation} {outcome : InvoiceLine → LineOutcome}
  {result : InvoiceLine → MatchResult} {decision : InvoiceLine → Decision}

theorem evaluate_line (he : s.evaluate p t = .ok e)
    (hos : s.matchLines = .ok (s.lines.map outcome)) {i : ℕ} {l : InvoiceLine}
    (hl : s.lines[i]? = some l) :
    ∃ scored r d, e.results[i]? = some r ∧ e.decisions[i]? = some d ∧
      s.LineEvaluated p t l (outcome l) scored r d := by
  obtain ⟨o, scored, r, d, ho, hr, hd, hline⟩ := evaluateWithPrior_line he hos hl
  obtain rfl : outcome l = o := by
    rw [List.getElem?_map, hl] at ho
    exact Option.some.inj ho
  exact ⟨scored, r, d, hr, hd, hline⟩

/-- Every line has a result and a decision of its own. -/
theorem exists_result (he : s.evaluate p t = .ok e)
    (hos : s.matchLines = .ok (s.lines.map outcome)) :
    ∃ (result : InvoiceLine → MatchResult) (decision : InvoiceLine → Decision),
      ∀ l ∈ s.lines, ∃ scored,
        s.LineEvaluated p t l (outcome l) scored (result l) (decision l) := by
  have hline : ∀ l, ∃ rd : MatchResult × Decision, l ∈ s.lines →
      ∃ scored, s.LineEvaluated p t l (outcome l) scored rd.1 rd.2 := by
    intro l
    by_cases hl : l ∈ s.lines
    · obtain ⟨i, hi⟩ := List.getElem?_of_mem hl
      obtain ⟨scored, r, d, -, -, hline⟩ := evaluate_line he hos hi
      exact ⟨(r, d), fun _ => ⟨scored, hline⟩⟩
    · exact ⟨(l.unmatchedResult, l.unmatchedResult.decideWith {} t), fun hmem => absurd hmem hl⟩
  choose row hrow using hline
  exact ⟨fun l => (row l).1, fun l => (row l).2, hrow⟩

/-- What happens to the lines is all that stands in results and decisions. -/
theorem evaluate_eq_map (he : s.evaluate p t = .ok e)
    (hos : s.matchLines = .ok (s.lines.map outcome))
    (h : ∀ l ∈ s.lines, ∃ scored,
      s.LineEvaluated p t l (outcome l) scored (result l) (decision l)) :
    e.results = s.lines.map result ∧ e.decisions = s.lines.map decision := by
  have hline : ∀ (i : ℕ) (l : InvoiceLine), s.lines[i]? = some l →
      e.results[i]? = some (result l) ∧ e.decisions[i]? = some (decision l) := by
    intro i l hl
    obtain ⟨scored, r, d, hr, hd, hline⟩ := evaluate_line he hos hl
    obtain ⟨scored', hline'⟩ := h l (List.mem_of_getElem? hl)
    obtain ⟨rfl, rfl⟩ := hline.unique hline'
    exact ⟨hr, hd⟩
  obtain ⟨hresults, hdecisions⟩ := length_of_evaluateWithPrior he
  exact ⟨eq_map_of_getElem? hresults fun i l hl => (hline i l hl).1,
    eq_map_of_getElem? hdecisions fun i l hl => (hline i l hl).2⟩

/-- Where a valid snapshot can be evaluated, so it can be in another order. -/
theorem exists_evaluate_reordered (hv : s.Valid) (h : s.Reordered s') :
    (∃ e, s.evaluate p t = .ok e) ↔ ∃ e', s'.evaluate p t = .ok e' := by
  obtain ⟨outcome, hos, hos', hscore⟩ := exists_outcome hv h
  have hlost : ∀ l, s.varianceLost (l, outcome l) = s'.varianceLost (l, outcome l) := by
    intro l
    rw [varianceLost_eq, varianceLost_eq, hscore]
  rw [exists_evaluate_iff_of_valid hv hos, exists_evaluate_iff_of_valid (h.valid hv) hos',
    ← List.map_prod_left_eq_zip, ← List.map_prod_left_eq_zip, List.forall_mem_map,
    List.forall_mem_map]
  simp only [hlost, h.lines.mem_iff]

/-- **Every line takes its result and its decision along.** -/
theorem exists_same_result (h : s.Reordered s') (he : s.evaluate p t = .ok e)
    (he' : s'.evaluate p t = .ok e') :
    ∃ (result : InvoiceLine → MatchResult) (decision : InvoiceLine → Decision),
      e.results = s.lines.map result ∧ e'.results = s'.lines.map result ∧
      e.decisions = s.lines.map decision ∧ e'.decisions = s'.lines.map decision := by
  obtain ⟨outcome, hos, hos', hscore⟩ := exists_outcome (exists_outcomes he).1 h
  obtain ⟨result, decision, hrow⟩ := exists_result he hos
  have hrow' : ∀ l ∈ s'.lines, ∃ scored,
      s'.LineEvaluated p t l (outcome l) scored (result l) (decision l) := by
    intro l hl
    obtain ⟨scored, hline⟩ := hrow l (h.lines.mem_iff.2 hl)
    exact ⟨scored, hline.reordered h (hscore l)⟩
  obtain ⟨hresults, hdecisions⟩ := evaluate_eq_map he hos hrow
  obtain ⟨hresults', hdecisions'⟩ := evaluate_eq_map he' hos' hrow'
  exact ⟨result, decision, hresults, hresults', hdecisions, hdecisions'⟩

/-- **The order of the documents does not matter.**  An evaluation succeeds exactly where that of
the reordered snapshot does.  Then every line has the same result and the same decision in both,
each in its place, and the decision on the invoice and its score are the same. -/
theorem evaluate_reordered (h : s.Reordered s') (p : GuardrailPolicy) (t : Threshold) :
    ((∃ e, s.evaluate p t = .ok e) ↔ ∃ e', s'.evaluate p t = .ok e') ∧
      ∀ e e', s.evaluate p t = .ok e → s'.evaluate p t = .ok e' →
        (∃ (result : InvoiceLine → MatchResult) (decision : InvoiceLine → Decision),
          e.results = s.lines.map result ∧ e'.results = s'.lines.map result ∧
          e.decisions = s.lines.map decision ∧ e'.decisions = s'.lines.map decision) ∧
        e'.decision = e.decision ∧ e'.score = e.score := by
  constructor
  · by_cases hv : s.Valid
    · exact exists_evaluate_reordered hv h
    · -- neither of the two is valid
      refine iff_of_false ?_ ?_
      · rintro ⟨e, he⟩
        exact hv (exists_outcomes he).1
      · rintro ⟨e', he'⟩
        exact hv (h.valid_iff.2 (exists_outcomes he').1)
  · intro e e' he he'
    obtain ⟨result, decision, hresults, hresults', hdecisions, hdecisions'⟩ :=
      exists_same_result h he he'
    obtain ⟨hscore, hinvoice⟩ := invoice_of_evaluateWithPrior he
    obtain ⟨hscore', hinvoice'⟩ := invoice_of_evaluateWithPrior he'
    have hrs : e'.results.Perm e.results := by
      rw [hresults, hresults']
      exact h.lines.symm.map _
    have hds : e'.decisions.Perm e.decisions := by
      rw [hdecisions, hdecisions']
      exact h.lines.symm.map _
    have hsame : e'.score = e.score := by
      rw [hscore, hscore', InvoiceScore.ofResults_perm hrs]
    refine ⟨⟨result, decision, hresults, hresults', hdecisions, hdecisions'⟩, ?_, hsame⟩
    rw [hinvoice, hinvoice', hsame, h.header, InvoiceDecision.ofLines_perm hrs hds]

end Whole

/-! ## Everything the other way round -/

/-- The snapshot with every list reversed. -/
def reversed (s : Snapshot) : Snapshot :=
  { s with
    lines := s.lines.reverse
    purchaseOrder := s.purchaseOrder.map fun po => { po with lines := po.lines.reverse }
    receipts := s.receipts.reverse
    posted := s.posted.reverse }

theorem reordered_reversed (s : Snapshot) : s.Reordered s.reversed where
  header := rfl
  lines := s.lines.reverse_perm.symm
  purchaseOrder := by
    show Option.Rel PurchaseOrder.Reordered s.purchaseOrder (s.purchaseOrder.map _)
    cases s.purchaseOrder with
    | none => exact Option.Rel.none
    | some po => exact Option.Rel.some ⟨rfl, po.lines.reverse_perm.symm⟩
  receipts := s.receipts.reverse_perm.symm
  vendor := rfl
  posted := s.posted.reverse_perm.symm

/-- The office invoice with goods received in three parts and two invoices posted before. -/
def deliveredOffice : Snapshot :=
  { office with
    receipts := [⟨"G-1", 1, some 20, ⟨5, 1⟩, ⟨2024, 1, 1⟩⟩,
      ⟨"G-2", 1, some 10, Decimal.ofInt 2, ⟨2024, 1, 1⟩⟩,
      ⟨"G-2", 2, some 20, ⟨250, 2⟩, ⟨2024, 1, 2⟩⟩]
    posted := [⟨"V-1", "R-0", none, Decimal.ofInt 24⟩, ⟨"V-3", "R-2", none, Decimal.ofInt 5⟩] }

set_option maxRecDepth 4000 in
/-- Whoever reads the office documents backwards finds the same. -/
theorem deliveredOffice_reversed :
    ∃ e e', deliveredOffice.evaluate .default .default = .ok e ∧
      deliveredOffice.reversed.evaluate .default .default = .ok e' ∧
      e'.results = e.results.reverse ∧ e'.decisions = e.decisions.reverse ∧
      e'.decision = e.decision ∧ e'.score = e.score := by
  obtain ⟨hiff, hsame⟩ := evaluate_reordered deliveredOffice.reordered_reversed .default .default
  obtain ⟨e, he⟩ : ∃ e, deliveredOffice.evaluate .default .default = .ok e :=
    exists_ok_of_isSome (by decide +kernel)
  obtain ⟨e', he'⟩ := hiff.1 ⟨e, he⟩
  obtain ⟨⟨result, decision, hresults, hresults', hdecisions, hdecisions'⟩, hinvoice, hscore⟩ :=
    hsame e e' he he'
  refine ⟨e, e', he, he', ?_, ?_, hinvoice, hscore⟩
  · rw [hresults, hresults']
    exact List.map_reverse
  · rw [hdecisions, hdecisions']
    exact List.map_reverse

end Payables.Snapshot
