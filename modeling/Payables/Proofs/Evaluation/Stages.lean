import Payables.Evaluation
import Payables.Proofs.Document.Validation
import Payables.Proofs.Matching.Consistency
import Payables.Proofs.Matching.Outcome
import Payables.Proofs.Matching.Score
import Payables.Proofs.Related

/-!
# The stages of an evaluation, line by line

An evaluation that succeeds has passed validation, matching, scoring, the guardrails and the
decisions, and every stage keeps the lines in their places.  `LineEvaluated` collects what happened
to one line; statements about single lines start from there, through the line
(`evaluateWithPrior_line`) or through its result (`exists_line_of_result`).
-/

namespace Payables

/-! ## Stages over lists -/

/-- Decisions are made place by place. -/
theorem decideLines_eq_ok_iff {p : GuardrailPolicy} {t : Threshold} {rs : List MatchResult}
    {ds : List Decision} :
    decideLines p t rs = .ok ds ↔ List.Forall₂ (fun r d => r.decide p t = .ok d) rs ds := by
  induction rs generalizing ds with
  | nil => simp [decideLines, eq_comm]
  | cons r rs ih =>
    rw [List.forall₂_cons_left_iff]
    simp only [decideLines, bind_eq_ok_iff, ih, Except.ok.injEq]
    constructor
    · rintro ⟨d, hd, ds', hds, rfl⟩
      exact ⟨d, ds', hd, hds, rfl⟩
    · rintro ⟨d, ds', hd, hds, rfl⟩
      exact ⟨d, hd, ds', hds, rfl⟩

theorem scoreLines_getElem? {po : Option PurchaseOrder} {xs : List (InvoiceLine × LineOutcome)}
    {rs : List MatchResult} (h : scoreLines po xs = .ok rs) {i : ℕ} {l : InvoiceLine}
    {o : LineOutcome} (hi : xs[i]? = some (l, o)) :
    ∃ r, rs[i]? = some r ∧ l.score po o = .ok r :=
  getElem?_of_related (scoreLines_eq_ok_iff.1 h) hi

theorem decideLines_getElem? {p : GuardrailPolicy} {t : Threshold} {rs : List MatchResult}
    {ds : List Decision} (h : decideLines p t rs = .ok ds) {i : ℕ} {r : MatchResult}
    (hi : rs[i]? = some r) : ∃ d, ds[i]? = some d ∧ r.decide p t = .ok d :=
  getElem?_of_related (decideLines_eq_ok_iff.1 h) hi

namespace MatchResult

theorem validate_eq_ok_iff {r : MatchResult} : r.validate = .ok () ↔ r.Consistent := by
  rw [← inconsistency?_eq_none_iff]
  unfold validate
  cases r.inconsistency? <;> simp

/-- A decision is made on a consistent result whose guardrails are all defined. -/
theorem decide_eq_ok_iff {r : MatchResult} {p : GuardrailPolicy} {t : Threshold} {d : Decision} :
    r.decide p t = .ok d ↔
      r.Consistent ∧ ∃ tr, p.partition r.guardrails = .ok tr ∧ d = r.decideWith tr t := by
  unfold decide
  rw [bind_eq_ok_iff]
  constructor
  · rintro ⟨⟨⟩, hv, h⟩
    refine ⟨validate_eq_ok_iff.1 hv, ?_⟩
    cases hp : p.partition r.guardrails with
    | error id =>
      rw [hp] at h
      cases h
    | ok tr =>
      rw [hp] at h
      cases h
      exact ⟨tr, rfl, rfl⟩
  · rintro ⟨hv, tr, hp, rfl⟩
    refine ⟨(), validate_eq_ok_iff.2 hv, ?_⟩
    rw [hp]

end MatchResult

/-! ## The whole run -/

namespace Snapshot

variable {s : Snapshot} {prior : List MatchResult} {p : GuardrailPolicy} {t : Threshold}
  {e : Evaluation}

/-- Results are accepted where all of their references are the snapshot's own. -/
theorem checkReferences_eq_ok_iff {rs : List MatchResult} :
    s.checkReferences rs = .ok () ↔
      ∀ r ∈ rs, ∀ ref, r.poLine = some ref → s.knowsLine ref = true := by
  induction rs with
  | nil => simp [checkReferences]
  | cons r rest ih =>
    rw [List.forall_mem_cons, ← ih]
    simp only [checkReferences]
    cases r.poLine with
    | none => simp
    | some ref => cases hknows : s.knowsLine ref <;> simp [hknows]

theorem decide_eq_ok_iff {rs : List MatchResult} :
    s.decide rs p t = .ok e ↔
      s.checkReferences rs = .ok () ∧ ∃ ds, decideLines p t rs = .ok ds ∧
        e = ⟨rs, ds,
          InvoiceDecision.ofLines s.header.invoiceId rs ds (InvoiceScore.ofResults rs) p t,
          InvoiceScore.ofResults rs⟩ := by
  unfold decide
  rw [bind_eq_ok_iff]
  constructor
  · rintro ⟨⟨⟩, hc, h⟩
    obtain ⟨ds, hds, h⟩ := bind_eq_ok_iff.1 h
    cases h
    exact ⟨hc, ds, hds, rfl⟩
  · rintro ⟨hc, ds, hds, rfl⟩
    exact ⟨(), hc, bind_eq_ok_iff.2 ⟨ds, hds, rfl⟩⟩

/-- The stages of a successful evaluation. -/
theorem evaluateWithPrior_eq_ok_iff :
    s.evaluateWithPrior prior p t = .ok e ↔
      s.error? = none ∧ ∃ os scored, s.matchWithPrior prior = .ok os ∧
        scoreLines s.purchaseOrder (s.lines.zip os) = .ok scored ∧
        s.decide (p.apply s scored) p t = .ok e := by
  unfold evaluateWithPrior
  rw [bind_eq_ok_iff]
  constructor
  · rintro ⟨⟨⟩, hv, h⟩
    obtain ⟨os, hos, h⟩ := bind_eq_ok_iff.1 h
    obtain ⟨scored, hs, h⟩ := bind_eq_ok_iff.1 h
    exact ⟨validate_eq_ok_iff.1 hv, os, scored, hos, hs, h⟩
  · rintro ⟨hv, os, scored, hos, hs, h⟩
    exact ⟨(), validate_eq_ok_iff.2 hv,
      bind_eq_ok_iff.2 ⟨os, hos, bind_eq_ok_iff.2 ⟨scored, hs, h⟩⟩⟩

/-- What an evaluation does to one line: its outcome is scored, the guardrails that fire are
recorded, and the result, found consistent, is decided on. -/
structure LineEvaluated (s : Snapshot) (p : GuardrailPolicy) (t : Threshold) (l : InvoiceLine)
    (o : LineOutcome) (scored r : MatchResult) (d : Decision) : Prop where
  score : l.score s.purchaseOrder o = .ok scored
  result : r = { scored with guardrails := (p.triggered s.context l scored).all }
  consistent : r.Consistent
  decision : ∃ tr, p.partition r.guardrails = .ok tr ∧ d = r.decideWith tr t

theorem length_of_scored {os : List LineOutcome} {scored : List MatchResult}
    (hos : s.matchWithPrior prior = .ok os)
    (hs : scoreLines s.purchaseOrder (s.lines.zip os) = .ok scored) :
    scored.length = s.lines.length := by
  rw [length_of_scoreLines hs, List.length_zip, length_of_matchWithPrior hos, Nat.min_self]

/-- No line is lost: results and decisions stand in the places of their lines. -/
theorem length_of_evaluateWithPrior (h : s.evaluateWithPrior prior p t = .ok e) :
    e.results.length = s.lines.length ∧ e.decisions.length = s.lines.length := by
  obtain ⟨-, os, scored, hos, hs, h⟩ := evaluateWithPrior_eq_ok_iff.1 h
  obtain ⟨-, ds, hds, rfl⟩ := decide_eq_ok_iff.1 h
  have hres : (p.apply s scored).length = s.lines.length := by
    simp [GuardrailPolicy.apply, length_of_scored hos hs]
  exact ⟨hres, (length_of_decideLines hds).trans hres⟩

/-- The invoice is scored by its results and decided on by its decisions. -/
theorem invoice_of_evaluateWithPrior (h : s.evaluateWithPrior prior p t = .ok e) :
    e.score = InvoiceScore.ofResults e.results ∧
      e.decision =
        InvoiceDecision.ofLines s.header.invoiceId e.results e.decisions e.score p t := by
  obtain ⟨-, os, scored, -, -, h⟩ := evaluateWithPrior_eq_ok_iff.1 h
  obtain ⟨-, ds, -, rfl⟩ := decide_eq_ok_iff.1 h
  exact ⟨rfl, rfl⟩

/-- An evaluation that succeeds is one of a valid snapshot that was matched. -/
theorem exists_outcomes (h : s.evaluateWithPrior prior p t = .ok e) :
    s.Valid ∧ ∃ os, s.matchWithPrior prior = .ok os := by
  obtain ⟨hvalid, os, -, hos, -⟩ := evaluateWithPrior_eq_ok_iff.1 h
  exact ⟨error?_eq_none_iff.1 hvalid, os, hos⟩

/-- **What happened to a line.** -/
theorem evaluateWithPrior_line (h : s.evaluateWithPrior prior p t = .ok e)
    {os : List LineOutcome} (hos : s.matchWithPrior prior = .ok os) {i : ℕ} {l : InvoiceLine}
    (hl : s.lines[i]? = some l) :
    ∃ o scored r d, os[i]? = some o ∧ e.results[i]? = some r ∧ e.decisions[i]? = some d ∧
      s.LineEvaluated p t l o scored r d := by
  obtain ⟨-, os', scored, hos', hs, h⟩ := evaluateWithPrior_eq_ok_iff.1 h
  obtain rfl : os' = os := Except.ok.inj (hos'.symm.trans hos)
  obtain ⟨-, ds, hds, rfl⟩ := decide_eq_ok_iff.1 h
  obtain ⟨hi, -⟩ := List.getElem?_eq_some_iff.1 hl
  obtain ⟨o, ho⟩ : ∃ o, os'[i]? = some o := by
    have : i < os'.length := by rwa [length_of_matchWithPrior hos]
    exact ⟨os'[i], List.getElem?_eq_getElem this⟩
  have hzip : (s.lines.zip os')[i]? = some (l, o) := by
    rw [List.getElem?_zip_eq_some]
    exact ⟨hl, ho⟩
  obtain ⟨sc, hsc, hscore⟩ := scoreLines_getElem? hs hzip
  have hr : (p.apply s scored)[i]?
      = some { sc with guardrails := (p.triggered s.context l sc).all } := by
    simp [GuardrailPolicy.apply, List.getElem?_zipWith, hl, hsc]
  obtain ⟨d, hd, hdec⟩ := decideLines_getElem? hds hr
  obtain ⟨hcons, htr⟩ := MatchResult.decide_eq_ok_iff.1 hdec
  exact ⟨o, sc, _, d, ho, hr, hd, hscore, rfl, hcons, htr⟩

/-- Evaluations under two policies decide on the same scored results. -/
theorem exists_scored_of_evaluations {p' : GuardrailPolicy} {t' : Threshold} {e' : Evaluation}
    (h : s.evaluateWithPrior prior p t = .ok e) (h' : s.evaluateWithPrior prior p' t' = .ok e') :
    ∃ scored, s.decide (p.apply s scored) p t = .ok e ∧
      s.decide (p'.apply s scored) p' t' = .ok e' := by
  obtain ⟨-, os, scored, hos, hscored, hdecide⟩ := evaluateWithPrior_eq_ok_iff.1 h
  obtain ⟨-, os', scored', hos', hscored', hdecide'⟩ := evaluateWithPrior_eq_ok_iff.1 h'
  obtain rfl : os = os' := Except.ok.inj (hos.symm.trans hos')
  obtain rfl : scored = scored' := Except.ok.inj (hscored.symm.trans hscored')
  exact ⟨scored, hdecide, hdecide'⟩

/-- What led to a decision. -/
theorem exists_line_of_decision (h : s.evaluateWithPrior prior p t = .ok e) {i : ℕ}
    {l : InvoiceLine} (hl : s.lines[i]? = some l) {d : Decision} (hd : e.decisions[i]? = some d) :
    ∃ o scored r, e.results[i]? = some r ∧ s.LineEvaluated p t l o scored r d := by
  obtain ⟨-, os, hos⟩ := exists_outcomes h
  obtain ⟨o, scored, r, d', -, hr, hd', hline⟩ := evaluateWithPrior_line h hos hl
  obtain rfl : d' = d := Option.some.inj (hd'.symm.trans hd)
  exact ⟨o, scored, r, hr, hline⟩

/-- Every result stands in the place of a line. -/
theorem exists_line_of_result (h : s.evaluateWithPrior prior p t = .ok e)
    {os : List LineOutcome} (hos : s.matchWithPrior prior = .ok os) {i : ℕ} {r : MatchResult}
    (hr : e.results[i]? = some r) :
    ∃ l o scored d, s.lines[i]? = some l ∧ os[i]? = some o ∧
      s.LineEvaluated p t l o scored r d := by
  have hi := (List.getElem?_eq_some_iff.1 hr).1
  rw [(length_of_evaluateWithPrior h).1] at hi
  have hl := List.getElem?_eq_getElem hi
  obtain ⟨o, scored, r', d, ho, hr', -, hline⟩ := evaluateWithPrior_line h hos hl
  obtain rfl : r' = r := Option.some.inj (hr'.symm.trans hr)
  exact ⟨_, o, scored, d, hl, ho, hline⟩

end Snapshot
end Payables
