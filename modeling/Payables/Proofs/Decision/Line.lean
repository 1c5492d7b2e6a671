import Payables.Decision.Basic
import Payables.Proofs.Guardrail.Triggered

/-!
# What is decided

The decision on a line and on an invoice, said without the steps that lead to it.

* `decideWith_eligibility_eq_autopilot_iff` — everything that a posted line has to pass.
* `MatchResult.declared` — what a policy declares for a line, in terms of the definitions that fire
  on it; `decideWith_declared` — the decision is the declared one.
* `strictest_eq` — an invoice is decided on as its lines are, in whatever order they come
  (`InvoiceDecision.ofLines_perm`).
-/

namespace Payables

/-! ## Passing every check -/

theorem ConfidenceBand.ofConfidence_eq_low_iff {c : UInt8} : ofConfidence c = low ↔ c < 85 := by
  unfold ofConfidence
  split
  · rename_i h
    have : ¬c < 85 := by
      rw [UInt8.not_lt]
      exact UInt8.le_trans (by decide) h
    simp [this]
  · split
    · rename_i h
      simp [UInt8.not_lt.2 h]
    · rename_i h
      simp [UInt8.not_le.1 h]

namespace MatchResult

variable {r : MatchResult} {tr : TriggeredGuardrails} {t : Threshold}

theorem reviewReasons_eq_nil_iff :
    r.reviewReasons tr t = [] ↔
      t.percent ≤ r.confidence.toNat ∧ 85 ≤ r.confidence ∧ tr.soft = [] ∧
        (r.status = .matched ∨ r.status = .shortfall) := by
  have hband : ConfidenceBand.ofConfidence r.confidence = .low ↔ ¬85 ≤ r.confidence := by
    rw [ConfidenceBand.ofConfidence_eq_low_iff, UInt8.not_le]
  have hstatus : r.status.needsReview = true ↔ ¬(r.status = .matched ∨ r.status = .shortfall) := by
    cases r.status <;> simp [MatchStatus.needsReview]
  simp only [reviewReasons, List.append_eq_nil_iff, ite_eq_right_iff, ite_eq_left_iff,
    imp_false, hband, hstatus, not_not, not_lt, Bool.not_eq_true, List.cons_ne_self,
    List.isEmpty_eq_false_iff]
  tauto

/-- A line posts exactly where no hard guardrail and no reason to review holds it back. -/
theorem decideWith_eligibility_eq_autopilot_iff :
    (r.decideWith tr t).eligibility = .autopilot ↔
      tr.hard = [] ∧ t.percent ≤ r.confidence.toNat ∧ 85 ≤ r.confidence ∧ tr.soft = [] ∧
        (r.status = .matched ∨ r.status = .shortfall) := by
  rw [← reviewReasons_eq_nil_iff]
  unfold decideWith
  by_cases hhard : tr.hard = []
  · by_cases hreasons : r.reviewReasons tr t = []
    · simp [hhard, hreasons]
    · simp [hhard, hreasons]
  · simp [hhard]

/-- A line is blocked exactly where a hard guardrail has fired. -/
theorem decideWith_eligibility_eq_blocked_iff :
    (r.decideWith tr t).eligibility = .blocked ↔ tr.hard ≠ [] := by
  unfold decideWith
  by_cases hhard : tr.hard = []
  · by_cases hreasons : r.reviewReasons tr t = []
    · simp [hhard, hreasons]
    · simp [hhard, hreasons]
  · simp [hhard]

end MatchResult

/-! ## What is declared for a line -/

/-- The severity of the guardrails that a decision is put down to. -/
def Eligibility.heldBy : Eligibility → Severity
  | .blocked => .hard
  | .autopilot | .manualReview => .soft

namespace MatchResult

variable {r : MatchResult} {tr : TriggeredGuardrails} {t : Threshold}

/-- What a policy declares for a line on which these definitions fire. -/
def declared (r : MatchResult) (fired : List GuardrailDefinition) (t : Threshold) : Eligibility :=
  if ∃ d ∈ fired, d.severity = .hard then .blocked
  else if (∀ d ∈ fired, d.severity ≠ .soft) ∧ t.percent ≤ r.confidence.toNat ∧
      85 ≤ r.confidence ∧ (r.status = .matched ∨ r.status = .shortfall) then .autopilot
  else .manualReview

/-- **The decision is the declared one**, once the guardrails are grouped by the severity of their
definitions. -/
theorem decideWith_declared {fired : List GuardrailDefinition}
    (h : tr.Groups fun s g => ∃ d ∈ fired, d.id = g ∧ d.severity = s) :
    (r.decideWith tr t).eligibility = r.declared fired t := by
  have hgroup : ∀ s, tr.group s = [] ↔ ∀ d ∈ fired, d.severity ≠ s := by
    intro s
    rw [(h s).eq_nil_iff]
    constructor
    · intro hnone d hd hs
      exact hnone d.id ⟨d, hd, rfl, hs⟩
    · rintro hnone _ ⟨d, hd, -, hs⟩
      exact hnone d hd hs
  have hblocked : (r.decideWith tr t).eligibility = .blocked ↔ ∃ d ∈ fired, d.severity = .hard := by
    rw [decideWith_eligibility_eq_blocked_iff, Ne, show tr.hard = tr.group .hard from rfl, hgroup]
    push Not
    rfl
  have hauto : (r.decideWith tr t).eligibility = .autopilot ↔
      tr.hard = [] ∧ t.percent ≤ r.confidence.toNat ∧ 85 ≤ r.confidence ∧
        (∀ d ∈ fired, d.severity ≠ .soft) ∧ (r.status = .matched ∨ r.status = .shortfall) := by
    rw [← hgroup]
    exact decideWith_eligibility_eq_autopilot_iff
  unfold declared
  split
  · rename_i hhard
    exact hblocked.2 hhard
  rename_i hhard
  have hnone : tr.hard = [] := by
    by_contra hne
    exact hhard (hblocked.1 (decideWith_eligibility_eq_blocked_iff.2 hne))
  split
  · rename_i hpass
    obtain ⟨hsoft, hthreshold, hband, hstatus⟩ := hpass
    exact hauto.2 ⟨hnone, hthreshold, hband, hsoft, hstatus⟩
  · rename_i hpass
    cases he : (r.decideWith tr t).eligibility with
    | autopilot =>
      obtain ⟨-, hthreshold, hband, hsoft, hstatus⟩ := hauto.1 he
      exact absurd ⟨hsoft, hthreshold, hband, hstatus⟩ hpass
    | manualReview => rfl
    | blocked => exact absurd (hblocked.1 he) hhard

/-- Nothing hard and nothing soft fires where a line is declared to post. -/
theorem severity_eq_audit_of_declared {fired : List GuardrailDefinition}
    (h : r.declared fired t = .autopilot) : ∀ d ∈ fired, d.severity = .audit := by
  unfold declared at h
  split at h
  · cases h
  rename_i hhard
  split at h
  · rename_i hpass
    intro d hd
    cases hs : d.severity with
    | hard => exact absurd ⟨d, hd, hs⟩ hhard
    | soft => exact absurd hs (hpass.1 d hd)
    | audit => rfl
  · cases h

/-- A line is held back by the guardrails of one severity; nothing soft has fired on a posted one.
-/
theorem decideWith_forcedBy (r : MatchResult) (tr : TriggeredGuardrails) (t : Threshold) :
    (r.decideWith tr t).forcedBy = tr.group (r.decideWith tr t).eligibility.heldBy := by
  unfold decideWith
  by_cases hhard : tr.hard = []
  · by_cases hreasons : r.reviewReasons tr t = []
    · have hsoft : tr.soft = [] := (reviewReasons_eq_nil_iff.1 hreasons).2.2.1
      simp [hhard, hreasons, Eligibility.heldBy, TriggeredGuardrails.group, hsoft]
    · simp [hhard, hreasons, Eligibility.heldBy, TriggeredGuardrails.group]
  · simp [hhard, Eligibility.heldBy, TriggeredGuardrails.group]

end MatchResult

/-! ## What is declared for an invoice -/

namespace Eligibility

variable {e : Eligibility} {es : List Eligibility}

theorem max_eq_blocked_iff {a b : Eligibility} : max a b = blocked ↔ a = blocked ∨ b = blocked := by
  cases a <;> cases b <;> decide

theorem max_eq_autopilot_iff {a b : Eligibility} :
    max a b = autopilot ↔ a = autopilot ∧ b = autopilot := by
  cases a <;> cases b <;> decide

theorem foldl_max_eq_blocked_iff : es.foldl max e = blocked ↔ e = blocked ∨ blocked ∈ es := by
  induction es generalizing e with
  | nil => simp
  | cons x es ih => rw [List.foldl_cons, ih, max_eq_blocked_iff, List.mem_cons, or_assoc,
      eq_comm (a := x)]

theorem foldl_max_eq_autopilot_iff :
    es.foldl max e = autopilot ↔ e = autopilot ∧ ∀ x ∈ es, x = autopilot := by
  induction es generalizing e with
  | nil => simp
  | cons x es ih => rw [List.foldl_cons, ih, max_eq_autopilot_iff, List.forall_mem_cons, and_assoc]

/-- What is declared for an invoice, given what its lines are. -/
def ofLines (es : List Eligibility) : Eligibility :=
  if blocked ∈ es then blocked
  else if es ≠ [] ∧ ∀ e ∈ es, e = autopilot then autopilot
  else manualReview

/-- **An invoice is decided on as its lines are.** -/
theorem strictest_eq (es : List Eligibility) : strictest es = ofLines es := by
  cases es with
  | nil => rfl
  | cons e es =>
    have hblocked : es.foldl max e = blocked ↔ blocked ∈ e :: es := by
      rw [foldl_max_eq_blocked_iff, List.mem_cons, eq_comm]
    have hauto : es.foldl max e = autopilot ↔ ∀ x ∈ e :: es, x = autopilot := by
      rw [foldl_max_eq_autopilot_iff, List.forall_mem_cons]
    simp only [ofLines, strictest, ← hblocked, ← hauto]
    cases es.foldl max e <;> simp

theorem strictest_eq_blocked_iff : strictest es = blocked ↔ blocked ∈ es := by
  rw [strictest_eq, ofLines]
  split
  · rename_i hmem
    exact iff_of_true rfl hmem
  · rename_i hmem
    refine iff_of_false ?_ hmem
    split <;> nofun

theorem strictest_eq_autopilot_iff :
    strictest es = autopilot ↔ es ≠ [] ∧ ∀ e ∈ es, e = autopilot := by
  rw [strictest_eq, ofLines]
  split
  · rename_i hmem
    refine iff_of_false nofun ?_
    rintro ⟨-, hall⟩
    cases hall blocked hmem
  · split
    · rename_i hall
      exact iff_of_true rfl hall
    · rename_i hall
      exact iff_of_false nofun hall

theorem strictest_perm {es es' : List Eligibility} (h : es.Perm es') :
    strictest es = strictest es' := by
  have hnil : es = [] ↔ es' = [] := by
    rw [← List.length_eq_zero_iff, ← List.length_eq_zero_iff, h.length_eq]
  rw [strictest_eq, strictest_eq]
  simp only [ofLines, h.mem_iff, Ne, hnil]

end Eligibility

/-- **The order of the lines does not matter** to the decision on an invoice. -/
theorem InvoiceDecision.ofLines_perm {rs rs' : List MatchResult} {ds ds' : List Decision}
    (hrs : rs.Perm rs') (hds : ds.Perm ds') (invoiceId : String) (score : InvoiceScore)
    (p : GuardrailPolicy) (t : Threshold) :
    ofLines invoiceId rs ds score p t = ofLines invoiceId rs' ds' score p t := by
  unfold ofLines
  rw [Eligibility.strictest_perm (hds.map _), Guardrail.sorted_perm (hds.flatMap_right _),
    Guardrail.sorted_perm ((hrs.flatMap_right _).filter _)]

end Payables
