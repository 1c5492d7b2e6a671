import Payables.Proofs.Document.Validation
import Payables.Proofs.Matching.Claims
import Payables.Proofs.Matching.Consistency
import Payables.Matching.Outcome

/-!
# Results of an earlier run

A prior is accepted in two scans, one over the results and one that claims what they were given.

* `checkPrior_eq_ok_iff` — the first asks for consistent results of distinct lines of the invoice.
* `seed_eq_ok_iff` — the second asks that the claims name free lines of the order, each once, and
  makes exactly these claims.
* `Coherent.claimAll` — claims of distinct lines for distinct lines keep a board coherent.
-/

namespace Payables

/-! ## The results -/

namespace MatchResult

/-- A result that may be carried over to an invoice. -/
structure PriorOf (s : Snapshot) (r : MatchResult) : Prop where
  invoiceId : r.invoiceId = s.header.invoiceId
  onInvoice : ∃ l ∈ s.lines, l.lineNum = r.lineNum
  wholeClaim : r.poLine.isSome = r.strategy.isSome
  consistent : r.Consistent

variable {s : Snapshot} {seen : List ℤ} {r : MatchResult} {rs : List MatchResult}

theorem priorInconsistency?_eq_none_iff :
    r.priorInconsistency? s seen = none ↔ r.lineNum ∉ seen ∧ r.PriorOf s := by
  have hid : ¬r.invoiceId ≠ s.header.invoiceId ↔ r.invoiceId = s.header.invoiceId := not_not
  have hseen : ¬seen.contains r.lineNum = true ↔ r.lineNum ∉ seen := by simp
  have hline : ¬(!s.lines.any fun l => l.lineNum == r.lineNum) = true ↔
      ∃ l ∈ s.lines, l.lineNum = r.lineNum := by
    simp
  have hwhole : ¬(r.poLine.isSome != r.strategy.isSome) = true ↔
      r.poLine.isSome = r.strategy.isSome := by
    simp
  rw [priorInconsistency?, check_eq_none_iff, check_eq_none_iff, check_eq_none_iff,
    check_eq_none_iff, hid, hseen, hline, hwhole, inconsistency?_eq_none_iff]
  constructor
  · rintro ⟨hinvoice, hfresh, hmem, hclaim, hcons⟩
    exact ⟨hfresh, hinvoice, hmem, hclaim, hcons⟩
  · rintro ⟨hfresh, h⟩
    exact ⟨h.invoiceId, hfresh, h.onInvoice, h.wholeClaim, h.consistent⟩

/-- **What the first scan accepts.** -/
theorem checkPrior_eq_ok_iff :
    checkPrior s seen rs = .ok () ↔
      (∀ r ∈ rs, r.PriorOf s) ∧ FreshNumbers MatchResult.lineNum seen rs := by
  induction rs generalizing seen with
  | nil => simp [checkPrior]
  | cons r rest ih =>
    have hcons : checkPrior s seen (r :: rest) = .ok () ↔
        r.priorInconsistency? s seen = none ∧ checkPrior s (r.lineNum :: seen) rest = .ok () := by
      simp only [checkPrior]
      cases r.priorInconsistency? s seen <;> simp
    rw [hcons, priorInconsistency?_eq_none_iff, ih, freshNumbers_cons, List.forall_mem_cons]
    tauto

/-- The claim that a result carries, if it carries one. -/
def claim? (r : MatchResult) : Option BoardClaim :=
  match r.poLine, r.strategy with
  | some ref, some strategy => some ⟨r.lineNum, ⟨ref.lineNum, strategy, r.rawConfidence⟩⟩
  | _, _ => none

theorem lineNum_of_claim? {c : BoardClaim} (h : r.claim? = some c) : c.lineNum = r.lineNum := by
  unfold claim? at h
  split at h
  · cases h
    rfl
  · cases h

/-- The claims of results of distinct lines are of distinct lines. -/
theorem claims_sublist (rs : List MatchResult) :
    ((rs.filterMap claim?).map BoardClaim.lineNum).Sublist (rs.map MatchResult.lineNum) := by
  induction rs with
  | nil => exact List.Sublist.refl _
  | cons r rest ih =>
    cases hc : r.claim? with
    | none =>
      rw [List.filterMap_cons_none hc]
      exact ih.cons _
    | some c =>
      rw [List.filterMap_cons_some hc, List.map_cons, List.map_cons, lineNum_of_claim? hc]
      exact ih.cons_cons _

end MatchResult

/-! ## Their claims -/

namespace Board

variable {poNumber : String} {b b' : Board} {r : MatchResult} {rs : List MatchResult}

/-- A board with more claims, made in their order. -/
def claimAll (b : Board) (cs : List BoardClaim) : Board :=
  { b with claims := cs.reverse ++ b.claims }

@[simp] theorem claimAll_nil (b : Board) : b.claimAll [] = b := rfl

theorem claimAll_cons (b : Board) (c : BoardClaim) (cs : List BoardClaim) :
    b.claimAll (c :: cs) = (b.claim c.lineNum c.assignment).claimAll cs := by
  simp [claimAll, claim]

/-- Claims of distinct lines for distinct lines keep a board coherent. -/
theorem Coherent.claimAll {cs : List BoardClaim} (hb : b.Coherent)
    (hlines : FreshNumbers BoardClaim.lineNum (b.claims.map BoardClaim.lineNum) cs)
    (hpoLines : FreshNumbers BoardClaim.poLine (b.claims.map BoardClaim.poLine) cs)
    (hhas : ∀ c ∈ cs, b.hasLine c.poLine = true) : (b.claimAll cs).Coherent := by
  induction cs generalizing b with
  | nil => exact hb
  | cons c cs ih =>
    rw [freshNumbers_cons] at hlines hpoLines
    rw [List.forall_mem_cons] at hhas
    rw [claimAll_cons]
    refine ih (hb.claim ?_ ?_ hhas.1) hlines.2 hpoLines.2 hhas.2
    · rw [isAssigned_eq_false_iff]
      intro c' hc' heq
      exact hlines.1 (List.mem_map.2 ⟨c', hc', heq⟩)
    · rw [isClaimed_eq_false_iff]
      intro c' hc' heq
      exact hpoLines.1 (List.mem_map.2 ⟨c', hc', heq⟩)

/-- A claim of a prior result names a line of the order on the board. -/
def Names (b : Board) (poNumber : String) (r : MatchResult) : Prop :=
  ∀ ref, r.poLine = some ref → r.strategy.isSome = true →
    ref.poNumber = poNumber ∧ b.hasLine ref.lineNum = true

theorem seedOne_eq_ok_iff :
    seedOne poNumber b r = .ok b' ↔
      (r.claim? = none ∧ b' = b) ∨ ∃ c, r.claim? = some c ∧ b.Names poNumber r ∧
        c.poLine ∉ b.claims.map BoardClaim.poLine ∧ b' = b.claim c.lineNum c.assignment := by
  have hclaimed : ∀ p, p ∉ b.claims.map BoardClaim.poLine ↔ b.isClaimed p = false := by
    intro p
    rw [isClaimed_eq_false_iff]
    simp
  have hok : ∀ b₁ : Board, (Except.ok b₁ : Except EvaluationError Board) = .ok b' ↔ b' = b₁ := by
    intro b₁
    rw [Except.ok.injEq]
    exact eq_comm
  unfold seedOne MatchResult.claim? Names
  cases hp : r.poLine with
  | none => simp [hok]
  | some ref =>
    cases hs : r.strategy with
    | none => simp [hok]
    | some strategy =>
      simp only [Option.some.injEq, reduceCtorEq, false_and, false_or, exists_eq_left', forall_eq',
        Option.isSome_some, forall_const, hclaimed]
      by_cases hnum : ref.poNumber = poNumber
      · cases hline : b.hasLine ref.lineNum <;> cases hcl : b.isClaimed ref.lineNum <;>
          simp [hnum, hok]
      · simp [hnum]

/-- **What the second scan does.** -/
theorem seed_eq_ok_iff :
    seed poNumber b rs = .ok b' ↔
      (∀ r ∈ rs, b.Names poNumber r) ∧
        FreshNumbers BoardClaim.poLine (b.claims.map BoardClaim.poLine)
          (rs.filterMap MatchResult.claim?) ∧
        b' = b.claimAll (rs.filterMap MatchResult.claim?) := by
  induction rs generalizing b with
  | nil => simp [seed, eq_comm]
  | cons r rest ih =>
    have hcons : seed poNumber b (r :: rest) = .ok b' ↔
        ∃ b₁, seedOne poNumber b r = .ok b₁ ∧ seed poNumber b₁ rest = .ok b' := by
      simp only [seed]
      cases seedOne poNumber b r <;> simp
    rw [hcons, List.forall_mem_cons]
    cases hc : r.claim? with
    | none =>
      have hnames : b.Names poNumber r := by
        intro ref hp hs
        obtain ⟨strategy, hs⟩ := Option.isSome_iff_exists.1 hs
        simp [MatchResult.claim?, hp, hs] at hc
      rw [List.filterMap_cons_none hc]
      simp only [seedOne_eq_ok_iff, hc, true_and, reduceCtorEq, false_and, exists_false, or_false,
        exists_eq_left, ih, hnames]
    | some c =>
      rw [List.filterMap_cons_some hc, freshNumbers_cons, claimAll_cons]
      simp only [seedOne_eq_ok_iff, hc, reduceCtorEq, false_and, false_or, Option.some.injEq,
        exists_eq_left']
      constructor
      · rintro ⟨_, ⟨hnames, hfresh, rfl⟩, hrest⟩
        obtain ⟨hnames', hfresh', rfl⟩ := ih.1 hrest
        exact ⟨⟨hnames, hnames'⟩, ⟨hfresh, hfresh'⟩, rfl⟩
      · rintro ⟨⟨hnames, hnames'⟩, ⟨hfresh, hfresh'⟩, rfl⟩
        exact ⟨_, ⟨hnames, hfresh, rfl⟩, ih.2 ⟨hnames', hfresh', rfl⟩⟩

/-- The order of the claims does not show in the outcomes. -/
theorem SameClaims.outcome_eq (h : SameClaims b b') (hb : b.Coherent) (hb' : b'.Coherent) :
    b.outcome = b'.outcome := by
  funext l
  unfold outcome
  rw [h.assignment?_eq hb hb']

/-- What is claimed on a fresh board that takes up a prior. -/
theorem mem_claims_seed {po : PurchaseOrder} {receipts : List GoodsReceipt}
    (hseed : (ofOrder po receipts).seed poNumber rs = .ok b) {c : BoardClaim} :
    c ∈ b.claims ↔ c ∈ rs.filterMap MatchResult.claim? := by
  obtain ⟨-, -, rfl⟩ := seed_eq_ok_iff.1 hseed
  simp [claimAll, ofOrder]

/-- A board that takes up the claims of an accepted prior is coherent. -/
theorem seed_coherent {s : Snapshot} {po : PurchaseOrder}
    (hcheck : MatchResult.checkPrior s [] rs = .ok ())
    (hseed : (ofOrder po s.receipts).seed po.poNumber rs = .ok b) : b.Coherent := by
  obtain ⟨hprior, hnums⟩ := MatchResult.checkPrior_eq_ok_iff.1 hcheck
  obtain ⟨hnames, hpoLines, rfl⟩ := seed_eq_ok_iff.1 hseed
  refine (coherent_ofOrder po s.receipts).claimAll ?_ hpoLines ?_
  · apply freshNumbers_empty.2
    exact (freshNumbers_empty.1 hnums).sublist (MatchResult.claims_sublist rs)
  · intro c hc
    obtain ⟨r, hr, hcr⟩ := List.mem_filterMap.1 hc
    unfold MatchResult.claim? at hcr
    split at hcr
    · rename_i ref strategy hp hs
      cases hcr
      exact (hnames r hr ref hp (by rw [hs]; rfl)).2
    · cases hcr

/-- The claims of an accepted prior are for lines of the invoice. -/
theorem seed_onLines {s : Snapshot} {po : PurchaseOrder}
    (hcheck : MatchResult.checkPrior s [] rs = .ok ())
    (hseed : (ofOrder po s.receipts).seed po.poNumber rs = .ok b) :
    ∀ c ∈ b.claims, ∃ l ∈ s.lines, l.lineNum = c.lineNum := by
  obtain ⟨hprior, -⟩ := MatchResult.checkPrior_eq_ok_iff.1 hcheck
  intro c hc
  obtain ⟨r, hr, hcr⟩ := List.mem_filterMap.1 ((mem_claims_seed hseed).1 hc)
  rw [MatchResult.lineNum_of_claim? hcr]
  exact (hprior r hr).onInvoice

end Board
end Payables
