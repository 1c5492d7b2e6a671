import Payables.Proofs.Evaluation.Priority
import Payables.Proofs.Guardrail.Triggered

/-!
# When an evaluation fails

An evaluation checks what it has found at every stage.  On its own findings these checks have
nothing to refuse but a variance that is no finite number.

* `exists_line_of_assigned`, `exists_scored` — what is matched is on the order, with no more
  confidence than its strategy allows, so it can be scored.
* `checkReferences_recorded` — the results refer to the snapshot's own order.
* `decide_recorded` — a line is decided on unless its variance is lost.
* `evaluate_error` — an evaluation fails where its snapshot is not valid, with the same error, or
  else at the first line whose variance is not finite.
-/

namespace Payables

/-- The errors that lie in the documents of a snapshot. -/
def EvaluationError.OfDocuments : EvaluationError → Prop
  | amountMismatch _ _ _ _ | foreignLine _ _ _ | duplicateInvoiceLine _ _ | duplicatePoLine _ _
  | purchaseOrderMismatch _ _ _ | missingPurchaseOrder _ _ => True
  | unknownPoLine _ _ | inconsistentMatch _ _ | unknownGuardrail _ | thresholdOutOfRange _ => False

theorem MatchResult.decide_eq_error {r : MatchResult} {p : GuardrailPolicy} {t : Threshold}
    {reason : Inconsistency} (h : r.inconsistency? = some reason) :
    r.decide p t = .error (.inconsistentMatch r.lineNum reason) := by
  unfold decide validate
  rw [h]
  rfl

/-! ## Validation -/

namespace Snapshot

variable {s : Snapshot} {p : GuardrailPolicy} {t : Threshold} {err : EvaluationError}

theorem ofDocuments_of_lineError? {h : InvoiceHeader} {seen : List ℤ} {l : InvoiceLine}
    (herr : lineError? h seen l = some err) : err.OfDocuments := by
  unfold lineError? at herr
  split at herr
  · cases herr
    trivial
  · split at herr
    · cases herr
      trivial
    · split at herr
      · cases herr
      · cases herr
        trivial

theorem ofDocuments_of_linesError? {h : InvoiceHeader} {seen : List ℤ} {ls : List InvoiceLine}
    (herr : linesError? h seen ls = some err) : err.OfDocuments := by
  induction ls generalizing seen with
  | nil => cases herr
  | cons l rest ih =>
    simp only [linesError?] at herr
    split at herr
    · rename_i e he
      cases herr
      exact ofDocuments_of_lineError? he
    · exact ih herr

theorem ofDocuments_of_orderLinesError? {h : InvoiceHeader} {po : PurchaseOrder} {seen : List ℤ}
    {ps : List PurchaseOrderLine} (herr : orderLinesError? h po seen ps = some err) :
    err.OfDocuments := by
  induction ps generalizing seen with
  | nil => cases herr
  | cons q rest ih =>
    simp only [orderLinesError?] at herr
    split at herr
    · cases herr
      trivial
    · split at herr
      · cases herr
        trivial
      · exact ih herr

/-- Validation finds fault with the documents only. -/
theorem ofDocuments_of_validate (herr : s.validate = .error err) : err.OfDocuments := by
  have herr' : s.error? = some err := by
    unfold validate at herr
    cases he : s.error? with
    | none =>
      rw [he] at herr
      cases herr
    | some e =>
      rw [he] at herr
      cases herr
      rfl
  unfold error? at herr'
  split at herr'
  · rename_i e he
    cases herr'
    exact ofDocuments_of_linesError? he
  · unfold orderError? at herr'
    split at herr'
    · cases herr'
    · cases herr'
      trivial
    · split at herr'
      · cases herr'
        trivial
      · exact ofDocuments_of_orderLinesError? herr'

/-! ## Matching -/

theorem exists_matchLines (hv : s.Valid) : ∃ os, s.matchLines = .ok os := by
  cases hn : s.header.poNumber with
  | none => exact ⟨_, matchLines_of_unordered hn⟩
  | some number =>
    obtain ⟨po, -, -, -, hok⟩ := matchLines_eq_ok hv hn
    exact ⟨_, hok⟩

/-- What matching gives a line of a valid snapshot: a line of the order, with no more confidence
than the strategy allows. -/
theorem exists_line_of_assigned (hv : s.Valid) {os : List LineOutcome} (hos : s.matchLines = .ok os)
    {a : Assignment} (ha : .assigned a ∈ os) :
    a.rawConfidence ≤ a.strategy.weight ∧
      ∃ po q, s.purchaseOrder = some po ∧ po.line? a.poLine = some q := by
  cases hn : s.header.poNumber with
  | none =>
    rcases exists_board hv hos with ⟨-, rfl⟩ | ⟨po, b, hb⟩
    · simp at ha
    · rw [hb.named] at hn
      cases hn
  | some number =>
    obtain ⟨po, hp, -, -, hok⟩ := matchLines_eq_ok hv hn
    obtain rfl : os = _ := Except.ok.inj (hos.symm.trans hok)
    obtain ⟨l, -, hl⟩ := List.mem_map.1 ha
    have hfresh := Board.coherent_ofOrder po s.receipts
    have hcoh := Board.play_coherent hfresh s.lines
    have hclaim := hcoh.assignment?_eq_some_iff.1 (outcome_eq_assigned_iff.1 hl)
    constructor
    · exact Board.play_confidence_le hfresh nofun _ hclaim
    · obtain ⟨x, hx, hnum⟩ := Board.hasLine_iff.1 (hcoh.hasLine _ hclaim)
      rw [(Board.play_extended hfresh s.lines).entries] at hx
      obtain ⟨q, hq, rfl⟩ := Board.mem_entries_ofOrder.1 hx
      have hsome : (po.line? a.poLine).isSome = true :=
        List.find?_isSome.2 ⟨q, hq, by simpa using hnum⟩
      obtain ⟨q', hq'⟩ := Option.isSome_iff_exists.1 hsome
      exact ⟨po, q', hp, hq'⟩

/-! ## Scoring -/

/-- What is matched can be scored. -/
theorem exists_scored (hv : s.Valid) {os : List LineOutcome} (hos : s.matchLines = .ok os) :
    ∃ scored, scoreLines s.purchaseOrder (s.lines.zip os) = .ok scored := by
  have hscore : ∀ x ∈ s.lines.zip os, ∃ r, x.1.score s.purchaseOrder x.2 = .ok r := by
    rintro ⟨l, o⟩ hx
    cases o with
    | unplanned => exact ⟨_, rfl⟩
    | unmatched => exact ⟨_, rfl⟩
    | assigned a =>
      obtain ⟨-, po, q, hp, hq⟩ := exists_line_of_assigned hv hos (List.of_mem_zip hx).2
      exact ⟨_, InvoiceLine.score_eq_ok_iff.2 (Or.inr (Or.inr ⟨a, po, q, rfl, hp, hq, rfl⟩))⟩
  generalize s.lines.zip os = xs at hscore ⊢
  induction xs with
  | nil => exact ⟨[], rfl⟩
  | cons x xs ih =>
    obtain ⟨⟨r, hr⟩, hrest⟩ := List.forall_mem_cons.1 hscore
    obtain ⟨rs, hrs⟩ := ih hrest
    exact ⟨r :: rs, scoreLines_eq_ok_iff.2 (.cons hr (scoreLines_eq_ok_iff.1 hrs))⟩

/-- A scored result with the guardrails that fire on its line. -/
def recorded (s : Snapshot) (p : GuardrailPolicy) (l : InvoiceLine) (sc : MatchResult) :
    MatchResult :=
  { sc with guardrails := (p.triggered s.context l sc).all }

/-- The results that are decided on stand in the places of the lines that they were scored for. -/
theorem forall₂_recorded {ls : List InvoiceLine} {os : List LineOutcome} {scored : List MatchResult}
    (hlen : os.length = ls.length) (h : scoreLines s.purchaseOrder (ls.zip os) = .ok scored) :
    List.Forall₂ (fun x r => ∃ sc, x.1.score s.purchaseOrder x.2 = .ok sc ∧ r = s.recorded p x.1 sc)
      (ls.zip os) (List.zipWith (s.recorded p) ls scored) := by
  rw [scoreLines_eq_ok_iff] at h
  induction ls generalizing os scored with
  | nil => exact .nil
  | cons l ls ih =>
    cases os with
    | nil => cases hlen
    | cons o os =>
      cases h with
      | cons hsc hrest => exact .cons ⟨_, hsc, rfl⟩ (ih (Nat.succ.inj hlen) hrest)

theorem knowsLine_of_score {l : InvoiceLine} {o : LineOutcome} {sc : MatchResult} {ref : PoLineRef}
    (h : l.score s.purchaseOrder o = .ok sc) (href : sc.poLine = some ref) :
    s.knowsLine ref = true := by
  obtain ⟨-, rfl⟩ | ⟨-, rfl⟩ | ⟨a, po, q, -, hp, hq, rfl⟩ := InvoiceLine.score_eq_ok_iff.1 h
  · cases href
  · cases href
  · cases href
    have hsome : (po.line? q.lineNum).isSome = true :=
      List.find?_isSome.2 ⟨q, (PurchaseOrder.mem_of_line?_eq_some hq).1, by simp⟩
    simp [knowsLine, hp, hsome]

/-- The references of the results are the snapshot's own. -/
theorem checkReferences_recorded {xs : List (InvoiceLine × LineOutcome)} {rs : List MatchResult}
    (h : List.Forall₂ (fun x r => ∃ sc, x.1.score s.purchaseOrder x.2 = .ok sc ∧
      r = s.recorded p x.1 sc) xs rs) : s.checkReferences rs = .ok () := by
  rw [checkReferences_eq_ok_iff]
  intro r hr ref href
  obtain ⟨x, -, sc, hscore, rfl⟩ := exists_of_related h hr
  exact knowsLine_of_score hscore href

/-! ## Deciding -/

/-- The variance of an assigned line is no finite number. -/
def varianceLost (s : Snapshot) (x : InvoiceLine × LineOutcome) : Bool :=
  match x.2, s.purchaseOrder with
  | .assigned a, some po =>
    (po.line? a.poLine).any fun q => !(Variance.measure x.1 q).pct.isFinite
  | _, _ => false

/-- A variance is lost where the scored one is not finite. -/
theorem varianceLost_eq (s : Snapshot) (l : InvoiceLine) (o : LineOutcome) :
    s.varianceLost (l, o) =
      match l.score s.purchaseOrder o with
      | .ok r => !r.variancePct.isFinite
      | .error _ => false := by
  unfold varianceLost InvoiceLine.score
  cases o with
  | unplanned => rfl
  | unmatched => rfl
  | assigned a =>
    cases s.purchaseOrder with
    | none => rfl
    | some po =>
      cases hq : po.line? a.poLine with
      | none => simp [hq]
      | some q => simp [hq, InvoiceLine.assignedResult]

/-- The error of a line whose variance is lost. -/
def lostError (x : InvoiceLine × LineOutcome) : EvaluationError :=
  .inconsistentMatch x.1.lineNum .varianceNotFinite

/-- **A line is decided on unless its variance is lost.** -/
theorem decide_recorded {l : InvoiceLine} {o : LineOutcome} {sc : MatchResult}
    (hraw : ∀ a, o = .assigned a → a.rawConfidence ≤ 100)
    (hscore : l.score s.purchaseOrder o = .ok sc) :
    (s.varianceLost (l, o) = true ∧ (s.recorded p l sc).decide p t = .error (lostError (l, o))) ∨
      (s.varianceLost (l, o) = false ∧ ∃ d, (s.recorded p l sc).decide p t = .ok d) := by
  have hok : sc.Consistent → ∃ d, (s.recorded p l sc).decide p t = .ok d := by
    intro hcons
    obtain ⟨tr, htr⟩ := GuardrailPolicy.exists_partition_triggered p s.context l sc
    exact ⟨_, MatchResult.decide_eq_ok_iff.2 ⟨hcons.record _, tr, htr, rfl⟩⟩
  obtain ⟨rfl, rfl⟩ | ⟨rfl, rfl⟩ | ⟨a, po, q, rfl, hp, hq, rfl⟩ :=
    InvoiceLine.score_eq_ok_iff.1 hscore
  · exact Or.inr ⟨rfl, hok (InvoiceLine.consistent_unplannedResult l)⟩
  · exact Or.inr ⟨rfl, hok (InvoiceLine.consistent_unmatchedResult l)⟩
  · have hlost : s.varianceLost (l, .assigned a) = !(Variance.measure l q).pct.isFinite := by
      simp [varianceLost, hp, hq]
    rw [hlost]
    cases hfinite : (Variance.measure l q).pct.isFinite with
    | true => exact Or.inr ⟨rfl, hok (InvoiceLine.consistent_assignedResult (hraw a rfl) hfinite)⟩
    | false =>
      refine Or.inl ⟨rfl, ?_⟩
      have hwrong : (l.assignedResult a po q).inconsistency? = some .varianceNotFinite := by
        rw [InvoiceLine.inconsistency?_assignedResult (hraw a rfl), hfinite]
        rfl
      exact MatchResult.decide_eq_error hwrong

/-- Deciding stops at the first line that is not decided on. -/
theorem decideLines_eq_error_iff {α : Type} {bad : α → Bool} {fail : α → EvaluationError}
    {xs : List α} {rs : List MatchResult}
    (h : List.Forall₂ (fun x r => (bad x = true ∧ r.decide p t = .error (fail x)) ∨
      (bad x = false ∧ ∃ d, r.decide p t = .ok d)) xs rs) :
    decideLines p t rs = .error err ↔ ∃ x, xs.find? bad = some x ∧ err = fail x := by
  induction h with
  | nil => simp [decideLines]
  | cons hx hrest ih =>
    rename_i x r xs rs
    simp only [decideLines]
    rw [bind_eq_error_iff]
    rcases hx with ⟨hbad, hr⟩ | ⟨hbad, d, hr⟩
    · rw [hr, List.find?_cons_of_pos hbad]
      simp [eq_comm]
    · rw [hr, List.find?_cons_of_neg (by simp [hbad]), ← ih]
      simp [bind_eq_error_iff]

/-! ## The whole evaluation -/

/-- A snapshot that is not valid is refused with the same error. -/
theorem evaluate_of_invalid (h : s.validate = .error err) : s.evaluate p t = .error err := by
  unfold evaluate evaluateWithPrior
  rw [h]
  rfl

/-- On a valid snapshot nothing is refused before the lines are decided on. -/
theorem evaluate_eq_of_valid (hv : s.Valid) {os : List LineOutcome} {scored : List MatchResult}
    (hos : s.matchLines = .ok os)
    (hscored : scoreLines s.purchaseOrder (s.lines.zip os) = .ok scored) :
    s.evaluate p t = s.decide (List.zipWith (s.recorded p) s.lines scored) p t := by
  unfold matchLines at hos
  unfold evaluate evaluateWithPrior
  rw [validate_eq_ok_iff.2 (error?_eq_none_iff.2 hv), hos]
  show (scoreLines s.purchaseOrder (s.lines.zip os) >>= fun rs => s.decide (p.apply s rs) p t) = _
  rw [hscored]
  rfl

theorem decide_eq_error_iff {rs : List MatchResult} (hrefs : s.checkReferences rs = .ok ()) :
    s.decide rs p t = .error err ↔ decideLines p t rs = .error err := by
  unfold decide
  rw [hrefs]
  show (decideLines p t rs >>= _) = _ ↔ _
  simp [bind_eq_error_iff]

/-- On a valid snapshot only a lost variance is refused, the first one in the order of the lines. -/
theorem evaluate_eq_error_iff_of_valid (hv : s.Valid) {os : List LineOutcome}
    (hos : s.matchLines = .ok os) :
    s.evaluate p t = .error err ↔
      ∃ x, (s.lines.zip os).find? s.varianceLost = some x ∧ err = lostError x := by
  obtain ⟨scored, hscored⟩ := exists_scored hv hos
  have hrecorded := forall₂_recorded (p := p) (length_of_matchWithPrior hos) hscored
  rw [evaluate_eq_of_valid hv hos hscored,
    decide_eq_error_iff (checkReferences_recorded hrecorded)]
  apply decideLines_eq_error_iff
  refine ((List.forall₂_and_left _ _).2 ⟨fun _ hx => hx, hrecorded⟩).imp ?_
  rintro ⟨l, o⟩ _ ⟨hx, sc, hscore, rfl⟩
  refine decide_recorded ?_ hscore
  rintro a rfl
  have hraw := (exists_line_of_assigned hv hos (List.of_mem_zip hx).2).1
  exact UInt8.le_trans hraw (Strategy.weight_le_hundred a.strategy)

/-- On a valid snapshot an evaluation succeeds exactly where no variance is lost. -/
theorem exists_evaluate_iff_of_valid (hv : s.Valid) {os : List LineOutcome}
    (hos : s.matchLines = .ok os) :
    (∃ e, s.evaluate p t = .ok e) ↔ ∀ x ∈ s.lines.zip os, s.varianceLost x = false := by
  cases he : s.evaluate p t with
  | ok e =>
    refine iff_of_true ⟨e, rfl⟩ ?_
    intro x hx
    cases hfind : (s.lines.zip os).find? s.varianceLost with
    | none => simpa using List.find?_eq_none.1 hfind x hx
    | some y =>
      have herr : s.evaluate p t = .error (lostError y) :=
        (evaluate_eq_error_iff_of_valid hv hos).2 ⟨y, hfind, rfl⟩
      rw [he] at herr
      cases herr
  | error err =>
    obtain ⟨x, hfind, -⟩ := (evaluate_eq_error_iff_of_valid hv hos).1 he
    refine iff_of_false nofun ?_
    intro hall
    have hlost := List.find?_some hfind
    rw [hall x (List.mem_of_find?_eq_some hfind)] at hlost
    cases hlost

/-- **When an evaluation fails.**  Either its snapshot is not valid, and it fails with the same
error, or matching succeeds and the variance of some line is not finite, and it fails on the first
such line.  What an evaluation has found itself is refused for no other reason. -/
theorem evaluate_error (s : Snapshot) (p : GuardrailPolicy) (t : Threshold) :
    (∀ err, s.evaluate p t = .error err ↔ s.validate = .error err ∨
      s.validate = .ok () ∧ ∃ os l o, s.matchLines = .ok os ∧
        (s.lines.zip os).find? s.varianceLost = some (l, o) ∧
        err = .inconsistentMatch l.lineNum .varianceNotFinite) ∧
      ∀ err, s.evaluate p t = .error err →
        err.OfDocuments ∨ ∃ n, err = .inconsistentMatch n .varianceNotFinite := by
  have hiff : ∀ err, s.evaluate p t = .error err ↔ s.validate = .error err ∨
      s.validate = .ok () ∧ ∃ os l o, s.matchLines = .ok os ∧
        (s.lines.zip os).find? s.varianceLost = some (l, o) ∧
        err = .inconsistentMatch l.lineNum .varianceNotFinite := by
    intro err
    cases hvalid : s.validate with
    | error e =>
      have herror : s.evaluate p t = .error e := by
        unfold evaluate evaluateWithPrior
        rw [hvalid]
        rfl
      simp [herror]
    | ok u =>
      have hv := error?_eq_none_iff.1 (validate_eq_ok_iff.1 hvalid)
      obtain ⟨os, hos⟩ := exists_matchLines hv
      rw [evaluate_eq_error_iff_of_valid hv hos]
      constructor
      · rintro ⟨⟨l, o⟩, hfind, rfl⟩
        exact Or.inr ⟨rfl, os, l, o, hos, hfind, rfl⟩
      · rintro (herr | ⟨-, os', l, o, hos', hfind, rfl⟩)
        · cases herr
        · obtain rfl : os' = os := Except.ok.inj (hos'.symm.trans hos)
          exact ⟨(l, o), hfind, rfl⟩
  refine ⟨hiff, ?_⟩
  intro err herr
  rcases (hiff err).1 herr with hvalid | ⟨-, os, l, o, -, -, rfl⟩
  · exact Or.inl (ofDocuments_of_validate hvalid)
  · exact Or.inr ⟨l.lineNum, rfl⟩

set_option maxRecDepth 4000 in
/-- The second line has a price that is too high for a percentage. -/
example :
    ({ office with lines := [officeLine 2 "white paper" none,
        { officeLine 1 "sundries" (some 20) with
          unitPrice := ⟨1, -400⟩, amount := ⟨3, -400⟩ }] } : Snapshot).evaluate .default .default =
      .error (.inconsistentMatch 1 .varianceNotFinite) := by
  decide +kernel

end Snapshot
end Payables
