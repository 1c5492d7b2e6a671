import Payables.Proofs.Decimal.Value
import Payables.Proofs.Evaluation.Autopilot
import Payables.Proofs.Evaluation.Stricter

/-!
# Resubmitted invoices

An invoice repeats a posted one of the same vendor that has the same reference, or the same purchase
order and the same total.  Totals are compared by value, so neither the places that amounts are
written with nor the way in which they are split into lines matters (`isDuplicate_iff`).

* `evaluate_resubmitted` — where a policy blocks duplicates, an invoice that repeats a posted one is
  blocked on every line and as a whole, and any other is not taken for a duplicate; a longer history
  never relaxes a decision.
-/

namespace Payables.Snapshot

variable {s : Snapshot} {p : GuardrailPolicy} {t : Threshold} {e : Evaluation}

/-! ## Repeating a posted invoice -/

/-- The invoice repeats a posted one: it is of the same vendor, with the same reference, or for the
same purchase order with the same total. -/
def Repeats (s : Snapshot) (i : PostedInvoice) : Prop :=
  i.vendorId = s.header.vendorId ∧
    (i.vendorReference = s.header.vendorReference ∨
      (∃ number, i.poNumber = some number ∧ s.header.poNumber = some number) ∧
        i.total.value = (s.lines.map fun l => l.amount.value).sum)

theorem isRepeatOf_iff {i : PostedInvoice} : s.isRepeatOf i = true ↔ s.Repeats i := by
  have htotal : i.total.eqv s.total = true ↔
      i.total.value = (s.lines.map fun l => l.amount.value).sum := by
    rw [Decimal.eqv_iff, total, Decimal.value_sum, List.map_map]
    rfl
  have hnumber : i.poNumber.isSome = true ∧ i.poNumber = s.header.poNumber ↔
      ∃ number, i.poNumber = some number ∧ s.header.poNumber = some number := by
    rw [Option.isSome_iff_exists]
    constructor
    · rintro ⟨⟨number, hi⟩, heq⟩
      exact ⟨number, hi, heq ▸ hi⟩
    · rintro ⟨number, hi, hs⟩
      exact ⟨⟨number, hi⟩, hi.trans hs.symm⟩
  simp only [isRepeatOf, Repeats, Bool.and_eq_true, Bool.or_eq_true, beq_iff_eq, htotal, hnumber]

/-- **What is taken for a duplicate** is what repeats a posted invoice. -/
theorem isDuplicate_iff : s.isDuplicate = true ↔ ∃ i ∈ s.posted, s.Repeats i := by
  simp only [isDuplicate, List.any_eq_true, isRepeatOf_iff]

/-! ## One line -/

/-- The rule of duplicates is recorded on a line where it is in force and the invoice was posted
before. -/
theorem LineEvaluated.duplicatePosting_mem_iff {l : InvoiceLine} {o : LineOutcome}
    {scored r : MatchResult} {d : Decision} (h : s.LineEvaluated p t l o scored r d) :
    .duplicatePosting ∈ r.guardrails ↔
      (∃ x ∈ p.definitions, x.id = .duplicatePosting) ∧ ∃ i ∈ s.posted, s.Repeats i := by
  have hrecorded : r.guardrails = (p.triggered s.context l scored).all := by rw [h.result]
  rw [hrecorded, (GuardrailPolicy.all_lists p s.context l scored).mem_iff, ← isDuplicate_iff]
  simp only [GuardrailPolicy.firing, List.mem_filter]
  constructor
  · rintro ⟨x, ⟨hx, hfires⟩, hid⟩
    rw [hid] at hfires
    exact ⟨⟨x, hx, hid⟩, hfires⟩
  · rintro ⟨⟨x, hx, hid⟩, hduplicate⟩
    refine ⟨x, ⟨hx, ?_⟩, hid⟩
    rw [hid]
    exact hduplicate

/-- A line is blocked by every recorded rule that is hard. -/
theorem LineEvaluated.blocked_of_hard {l : InvoiceLine} {o : LineOutcome} {scored r : MatchResult}
    {d : Decision} (h : s.LineEvaluated p t l o scored r d) {g : Guardrail}
    (hg : g ∈ r.guardrails) (hhard : p.severity? g = some .hard) :
    d.eligibility = .blocked ∧ g ∈ d.forcedBy := by
  obtain ⟨tr, htr, rfl⟩ := h.decision
  have hmem : g ∈ tr.hard := ((GuardrailPolicy.partition_lists htr .hard).mem_iff g).2 ⟨hg, hhard⟩
  have hblocked : (r.decideWith tr t).eligibility = .blocked :=
    MatchResult.decideWith_eligibility_eq_blocked_iff.2 (List.ne_nil_of_mem hmem)
  refine ⟨hblocked, ?_⟩
  rw [MatchResult.decideWith_forcedBy, hblocked]
  exact hmem

/-! ## The whole invoice -/

/-- A hard rule that is recorded on every line blocks the invoice, line by line and as a whole. -/
theorem blocked_of_hard (h : s.evaluate p t = .ok e) (hne : s.lines ≠ []) {g : Guardrail}
    (hhard : p.severity? g = some .hard) (hall : ∀ r ∈ e.results, g ∈ r.guardrails) :
    (∀ d ∈ e.decisions, d.eligibility = .blocked ∧ g ∈ d.forcedBy) ∧
      e.decision.eligibility = .blocked ∧ g ∈ e.decision.forcedBy := by
  have hlen := (length_of_evaluateWithPrior h).2
  have hlines : ∀ d ∈ e.decisions, d.eligibility = .blocked ∧ g ∈ d.forcedBy := by
    intro d hd
    obtain ⟨i, hi⟩ := List.getElem?_of_mem hd
    obtain ⟨hlt, -⟩ := List.getElem?_eq_some_iff.1 hi
    rw [hlen] at hlt
    obtain ⟨o, scored, r, hr, hline⟩ := exists_line_of_decision h (List.getElem?_eq_getElem hlt) hi
    exact hline.blocked_of_hard (hall r (List.mem_of_getElem? hr)) hhard
  obtain ⟨d, hd⟩ : ∃ d, d ∈ e.decisions := by
    apply List.exists_mem_of_ne_nil
    rw [← List.length_pos_iff, hlen, List.length_pos_iff]
    exact hne
  obtain ⟨hblocked, hforced⟩ := hlines d hd
  refine ⟨hlines, ?_⟩
  rw [(invoice_of_evaluateWithPrior h).2]
  constructor
  · apply Eligibility.strictest_eq_blocked_iff.2
    exact List.mem_map.2 ⟨d, hd, hblocked⟩
  · exact ((Guardrail.lists_sorted _).mem_iff g).2 (List.mem_flatMap.2 ⟨d, hd, hforced⟩)

/-- The rule of duplicates is recorded on the results where it is in force and the invoice was
posted before, and on none otherwise. -/
theorem duplicatePosting_mem_iff (h : s.evaluate p t = .ok e) {r : MatchResult}
    (hr : r ∈ e.results) :
    .duplicatePosting ∈ r.guardrails ↔
      (∃ x ∈ p.definitions, x.id = .duplicatePosting) ∧ ∃ i ∈ s.posted, s.Repeats i := by
  obtain ⟨-, os, hos⟩ := exists_outcomes h
  obtain ⟨i, hi⟩ := List.getElem?_of_mem hr
  obtain ⟨l, o, scored, d, -, -, hline⟩ := exists_line_of_result h hos hi
  exact hline.duplicatePosting_mem_iff

/-- With a longer history everything fires that fired before. -/
theorem firing_posted {posted : List PostedInvoice} (hsub : s.posted ⊆ posted) (l : InvoiceLine)
    (r : MatchResult) :
    p.firing s.context l r ⊆ p.firing { s with posted := posted }.context l r := by
  intro x hx
  obtain ⟨hmem, hfires⟩ := List.mem_filter.1 hx
  refine List.mem_filter.2 ⟨hmem, ?_⟩
  cases hid : x.id with
  | duplicatePosting =>
    rw [hid] at hfires
    obtain ⟨i, hi, hrepeats⟩ := isDuplicate_iff.1 hfires
    exact isDuplicate_iff.2 ⟨i, hsub hi, hrepeats⟩
  | vendorPaymentBlock | invoicePredatesPo | priceVariance | quantityVariance | partialReceipt
  | vendorReliabilityWatch | largeUnplannedCost =>
    rw [hid] at hfires
    exact hfires

/-- **A resubmitted invoice is always caught.**  Where a policy defines every rule once and blocks
duplicates, an invoice that repeats a posted one is blocked as a duplicate, on every line and as a
whole; one that does not is no duplicate on any line.  Under any policy, more posted invoices never
make a decision less restrictive. -/
theorem evaluate_resubmitted (h : s.evaluate p t = .ok e) :
    ((p.definitions.map GuardrailDefinition.id).Nodup →
      (∃ x ∈ p.definitions, x.id = .duplicatePosting ∧ x.severity = .hard) → s.lines ≠ [] →
      ((∃ i ∈ s.posted, s.Repeats i) →
        (e.decisions.length = s.lines.length ∧
          ∀ d ∈ e.decisions, d.eligibility = .blocked ∧ .duplicatePosting ∈ d.forcedBy) ∧
        e.decision.eligibility = .blocked ∧ .duplicatePosting ∈ e.decision.forcedBy) ∧
      ((¬∃ i ∈ s.posted, s.Repeats i) → ∀ r ∈ e.results, .duplicatePosting ∉ r.guardrails)) ∧
    ∀ posted, s.posted ⊆ posted → ∃ e', { s with posted := posted }.evaluate p t = .ok e' ∧
      List.Forall₂ (fun d d' => d.eligibility ≤ d'.eligibility) e.decisions e'.decisions ∧
      e.decision.eligibility ≤ e'.decision.eligibility := by
  constructor
  · intro hdefs hdefined hne
    have hhard : p.severity? .duplicatePosting = some .hard :=
      (GuardrailPolicy.severity?_eq_some_iff hdefs).2 hdefined
    obtain ⟨x, hx, hid, -⟩ := hdefined
    constructor
    · intro hrepeats
      obtain ⟨hlines, hinvoice⟩ := blocked_of_hard h hne hhard fun r hr =>
        (duplicatePosting_mem_iff h hr).2 ⟨⟨x, hx, hid⟩, hrepeats⟩
      exact ⟨⟨(length_of_evaluateWithPrior h).2, hlines⟩, hinvoice⟩
    · intro hnone r hr hmem
      exact hnone ((duplicatePosting_mem_iff h hr).1 hmem).2
  · intro posted hsub
    refine evaluate_of_moreFires ?_ h
    intro l _ sc x hx
    exact ⟨⟨x, firing_posted hsub l sc hx, rfl⟩, rfl⟩

/-! ## An order that is billed again -/

/-- Lines of paper of these amounts, after 1.00 has been billed for the order under another
reference. -/
def billedPaper (amounts : List Decimal) : Snapshot :=
  { paper (Decimal.ofInt 1) (Decimal.ofInt 1) with
    lines := amounts.mapIdx fun i amount =>
      { paperBilled (Decimal.ofInt 1) amount with lineNum := i + 1, quantity := amount }
    posted := [⟨"V-1", "R-0", some "P-1", ⟨100, 2⟩⟩] }

/-- The posting of such an invoice itself, when it comes to 1.001. -/
def paperPosting : PostedInvoice := ⟨"V-1", "R-1", some "P-1", ⟨1001, 3⟩⟩

set_option maxRecDepth 4000 in
/-- Lines of 0.25 and 0.750 come to 1.00, and so do lines of 0.5, 0.3 and 0.20, so both invoices are
blocked as duplicates.  Lines of 0.25 and 0.751 do not, and are blocked only once they have been
posted themselves. -/
theorem billedPaper_blocked :
    (∀ amounts ∈ ([[⟨25, 2⟩, ⟨750, 3⟩], [⟨5, 1⟩, ⟨3, 1⟩, ⟨20, 2⟩]] : List (List Decimal)),
      ∃ e, (billedPaper amounts).evaluate .default .default = .ok e ∧
        e.decisions.length = amounts.length ∧
        (∀ d ∈ e.decisions, d.eligibility = .blocked ∧ .duplicatePosting ∈ d.forcedBy) ∧
        e.decision.eligibility = .blocked ∧ .duplicatePosting ∈ e.decision.forcedBy) ∧
    ∃ s e e', s = billedPaper [⟨25, 2⟩, ⟨751, 3⟩] ∧ s.evaluate .default .default = .ok e ∧
      e.results.length = 2 ∧ (∀ r ∈ e.results, .duplicatePosting ∉ r.guardrails) ∧
      { s with posted := paperPosting :: s.posted }.evaluate .default .default = .ok e' ∧
      List.Forall₂ (fun d d' => d.eligibility ≤ d'.eligibility) e.decisions e'.decisions ∧
      e'.decision.eligibility = .blocked := by
  have hdefs : (GuardrailPolicy.default.definitions.map GuardrailDefinition.id).Nodup := by
    decide
  have hdefined : ∃ x ∈ GuardrailPolicy.default.definitions,
      x.id = .duplicatePosting ∧ x.severity = .hard := ⟨_, List.mem_cons_self, rfl, rfl⟩
  constructor
  · intro amounts hmem
    have hsplit : ∀ amounts ∈ [[⟨25, 2⟩, ⟨750, 3⟩], [⟨5, 1⟩, ⟨3, 1⟩, ⟨20, 2⟩]],
        (billedPaper amounts).lines ≠ [] ∧ (billedPaper amounts).isDuplicate = true ∧
          ((billedPaper amounts).evaluate .default .default).toOption.isSome = true := by
      decide +kernel
    obtain ⟨hne, hduplicate, hok⟩ := hsplit amounts hmem
    obtain ⟨e, he⟩ := exists_ok_of_isSome hok
    obtain ⟨hcaught, -⟩ := (evaluate_resubmitted he).1 hdefs hdefined hne
    obtain ⟨⟨hlen, hlines⟩, hinvoice⟩ := hcaught (isDuplicate_iff.1 hduplicate)
    exact ⟨e, he, hlen.trans List.length_mapIdx, hlines, hinvoice⟩
  · obtain ⟨e, he⟩ : ∃ e,
        (billedPaper [⟨25, 2⟩, ⟨751, 3⟩]).evaluate .default .default = .ok e :=
      exists_ok_of_isSome (by decide +kernel)
    have hnone : ¬∃ i ∈ (billedPaper [⟨25, 2⟩, ⟨751, 3⟩]).posted,
        (billedPaper [⟨25, 2⟩, ⟨751, 3⟩]).Repeats i :=
      isDuplicate_iff.not.1 (by decide +kernel)
    obtain ⟨hfirst, hlonger⟩ := evaluate_resubmitted he
    obtain ⟨e', he', hlines, -⟩ := hlonger (paperPosting :: _) (List.subset_cons_self _ _)
    obtain ⟨hcaught, -⟩ := (evaluate_resubmitted he').1 hdefs hdefined (List.cons_ne_nil _ _)
    obtain ⟨-, hblocked, -⟩ := hcaught ⟨paperPosting, List.mem_cons_self, rfl, Or.inl rfl⟩
    exact ⟨_, e, e', rfl, he, (length_of_evaluateWithPrior he).1,
      (hfirst hdefs hdefined (List.cons_ne_nil _ _)).2 hnone, he', hlines, hblocked⟩

end Payables.Snapshot
