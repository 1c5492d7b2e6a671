import Payables.Proofs.Evaluation.Seeding
import Payables.Proofs.Matching.Bisimulation

/-!
# Which priors are accepted

A prior is looked through twice, each time up to the first result that is refused: once with the
line numbers seen so far, and once more with the lines of the order claimed so far.  What the two
passes ask for together is a property of the prior as a set.

* `Snapshot.AcceptsPrior` — that property, and `exists_matchWithPrior_iff`: it is what is accepted.
* `matchWithPrior_perm` — the claims of a prior in another order are the same claims, so the lines
  have the same outcomes.
* `matchWithPrior_eq_error` — on a valid snapshot, an error is always about one of the results.
* `matchWithPrior_accepted` — all of it.
-/

namespace Payables

/-- A purchase order that has every line that a prior carries, none of them carried twice. -/
structure PurchaseOrder.Supplies (po : PurchaseOrder) (prior : List MatchResult) : Prop where
  ownLines : ∀ r ∈ prior, ∀ ref, r.poLine = some ref →
    ref.poNumber = po.poNumber ∧ ∃ q ∈ po.lines, q.lineNum = ref.lineNum
  carried_nodup : (prior.filterMap MatchResult.poLine).Nodup

/-- A prior of consistent results for distinct lines of the invoice, that carry lines of the
purchase order that the invoice names, each once, or none if it names no order. -/
structure Snapshot.AcceptsPrior (s : Snapshot) (prior : List MatchResult) : Prop where
  invoiceId : ∀ r ∈ prior, r.invoiceId = s.header.invoiceId
  onInvoice : ∀ r ∈ prior, ∃ l ∈ s.lines, l.lineNum = r.lineNum
  lineNums_nodup : (prior.map MatchResult.lineNum).Nodup
  wholeClaims : ∀ r ∈ prior, r.poLine.isSome = r.strategy.isSome
  consistent : ∀ r ∈ prior, r.validate = .ok ()
  order : (s.header.poNumber = none ∧ ∀ r ∈ prior, r.poLine = none) ∨
    ∃ number po, s.header.poNumber = some number ∧ s.purchaseOrder = some po ∧ po.Supplies prior

/-- The error is about this result: it is inconsistent, or what it carries is not there. -/
def MatchResult.Blamed (r : MatchResult) (err : EvaluationError) : Prop :=
  (∃ reason, err = .inconsistentMatch r.lineNum reason) ∨
    ∃ ref, r.poLine = some ref ∧ err = .unknownPoLine r.lineNum ref

variable {s : Snapshot} {prior prior' : List MatchResult} {po : PurchaseOrder}

/-! ## What the passes ask for -/

/-- The first pass asks for the results to be consistent, and for distinct lines of the invoice. -/
theorem MatchResult.checkPrior_eq_ok_iff_nodup :
    checkPrior s [] prior = .ok () ↔
      (∀ r ∈ prior, r.PriorOf s) ∧ (prior.map MatchResult.lineNum).Nodup := by
  rw [checkPrior_eq_ok_iff, freshNumbers_empty]

/-- The lines that are claimed are those that are carried. -/
theorem MatchResult.claimed_eq_carried (h : ∀ r ∈ prior, r.PriorOf s) :
    (prior.filterMap claim?).map BoardClaim.poLine =
      (prior.filterMap MatchResult.poLine).map PoLineRef.lineNum := by
  rw [List.map_filterMap, List.map_filterMap]
  refine List.filterMap_congr fun r hr => ?_
  cases href : r.poLine with
  | none => simp [claim?, href]
  | some ref =>
    obtain ⟨strategy, -, hclaim⟩ := (h r hr).exists_claim href
    rw [hclaim]
    rfl

namespace Board

theorem hasLine_ofOrder {receipts : List GoodsReceipt} {p : ℤ} :
    (ofOrder po receipts).hasLine p = true ↔ ∃ q ∈ po.lines, q.lineNum = p := by
  rw [hasLine_iff]
  constructor
  · rintro ⟨e, he, rfl⟩
    obtain ⟨q, hq, rfl⟩ := mem_entries_ofOrder.1 he
    exact ⟨q, hq, rfl⟩
  · rintro ⟨q, hq, rfl⟩
    exact ⟨_, mem_entries_ofOrder.2 ⟨q, hq, rfl⟩, rfl⟩

/-- **What the second pass asks for**, after the first one. -/
theorem exists_seed_iff (h : ∀ r ∈ prior, r.PriorOf s) :
    (∃ b, (ofOrder po s.receipts).seed po.poNumber prior = .ok b) ↔ po.Supplies prior := by
  simp only [seed_eq_ok_iff]
  have hfresh : FreshNumbers BoardClaim.poLine ((ofOrder po s.receipts).claims.map
      BoardClaim.poLine) (prior.filterMap MatchResult.claim?) ↔
      ((prior.filterMap MatchResult.poLine).map PoLineRef.lineNum).Nodup := by
    rw [← MatchResult.claimed_eq_carried h]
    exact freshNumbers_empty
  rw [hfresh]
  constructor
  · rintro ⟨_, hnames, hnodup, -⟩
    refine ⟨?_, hnodup.of_map⟩
    intro r hr ref href
    obtain ⟨hnum, hline⟩ := hnames r hr ref href (by rw [← (h r hr).wholeClaim, href]; rfl)
    exact ⟨hnum, hasLine_ofOrder.1 hline⟩
  · intro hpo
    refine ⟨_, ?_, hpo.carried_nodup.map_on ?_, rfl⟩
    · intro r hr ref href _
      obtain ⟨hnum, hline⟩ := hpo.ownLines r hr ref href
      exact ⟨hnum, hasLine_ofOrder.2 hline⟩
    · -- references to lines of one number are equal, for they are to the same order
      rintro ⟨_, _⟩ hx ⟨_, _⟩ hy rfl
      obtain ⟨r, hr, href⟩ := List.mem_filterMap.1 hx
      obtain ⟨r', hr', href'⟩ := List.mem_filterMap.1 hy
      obtain rfl := (hpo.ownLines r hr _ href).1
      obtain rfl := (hpo.ownLines r' hr' _ href').1
      rfl

end Board

namespace Snapshot

theorem matchWithPrior_accepts (hcheck : MatchResult.checkPrior s [] prior = .ok ()) :
    (∃ os, s.matchWithPrior prior = .ok os) ↔
      (s.header.poNumber = none ∧ ∀ r ∈ prior, r.poLine = none) ∨
        ∃ number po, s.header.poNumber = some number ∧ s.purchaseOrder = some po ∧
          po.Supplies prior := by
  obtain ⟨hprior, -⟩ := MatchResult.checkPrior_eq_ok_iff.1 hcheck
  simp only [matchWithPrior_eq_ok_iff, hcheck, true_and]
  constructor
  · rintro ⟨_, ⟨hn, hnone, -⟩ | ⟨number, po, b, hn, hp, hseed, -⟩⟩
    · exact Or.inl ⟨hn, hnone⟩
    · exact Or.inr ⟨number, po, hn, hp, (Board.exists_seed_iff hprior).1 ⟨b, hseed⟩⟩
  · rintro (⟨hn, hnone⟩ | ⟨number, po, hn, hp, hpo⟩)
    · exact ⟨_, Or.inl ⟨hn, hnone, rfl⟩⟩
    · obtain ⟨b, hseed⟩ := (Board.exists_seed_iff hprior).2 hpo
      exact ⟨_, Or.inr ⟨number, po, b, hn, hp, hseed, rfl⟩⟩

/-- **What is accepted.** -/
theorem exists_matchWithPrior_iff :
    (∃ os, s.matchWithPrior prior = .ok os) ↔ s.AcceptsPrior prior := by
  constructor
  · rintro ⟨os, hos⟩
    have hcheck := (matchWithPrior_eq_ok_iff.1 hos).1
    obtain ⟨hprior, hnodup⟩ := MatchResult.checkPrior_eq_ok_iff_nodup.1 hcheck
    exact ⟨fun r hr => (hprior r hr).invoiceId, fun r hr => (hprior r hr).onInvoice, hnodup,
      fun r hr => (hprior r hr).wholeClaim,
      fun r hr => MatchResult.validate_eq_ok_iff.2 (hprior r hr).consistent,
      (matchWithPrior_accepts hcheck).1 ⟨os, hos⟩⟩
  · intro h
    have hprior : ∀ r ∈ prior, r.PriorOf s := fun r hr =>
      ⟨h.invoiceId r hr, h.onInvoice r hr, h.wholeClaims r hr,
        MatchResult.validate_eq_ok_iff.1 (h.consistent r hr)⟩
    have hcheck := MatchResult.checkPrior_eq_ok_iff_nodup.2 ⟨hprior, h.lineNums_nodup⟩
    exact (matchWithPrior_accepts hcheck).2 h.order

/-! ## The order of a prior -/

theorem checkPrior_perm (h : prior.Perm prior')
    (hcheck : MatchResult.checkPrior s [] prior = .ok ()) :
    MatchResult.checkPrior s [] prior' = .ok () := by
  obtain ⟨hprior, hnums⟩ := MatchResult.checkPrior_eq_ok_iff.1 hcheck
  exact MatchResult.checkPrior_eq_ok_iff.2
    ⟨fun r hr => hprior r (h.mem_iff.2 hr), hnums.perm h⟩

/-- Boards that take up a prior in two orders have the same claims. -/
theorem seed_perm {b : Board} (h : prior.Perm prior')
    (hseed : (Board.ofOrder po s.receipts).seed po.poNumber prior = .ok b) :
    ∃ b', (Board.ofOrder po s.receipts).seed po.poNumber prior' = .ok b' ∧
      Board.SameClaims b b' := by
  obtain ⟨hnames, hfresh, hb⟩ := Board.seed_eq_ok_iff.1 hseed
  have hclaims := h.filterMap MatchResult.claim?
  have hseed' := Board.seed_eq_ok_iff.2
    ⟨fun r hr => hnames r (h.mem_iff.2 hr), hfresh.perm hclaims, rfl⟩
  refine ⟨_, hseed', by rw [hb]; rfl, by rw [hb]; rfl, ?_⟩
  intro c
  rw [Board.mem_claims_seed hseed, Board.mem_claims_seed hseed', hclaims.mem_iff]

/-- **The order of a prior does not show.** -/
theorem matchWithPrior_perm {os : List LineOutcome} (h : prior.Perm prior')
    (hos : s.matchWithPrior prior = .ok os) : s.matchWithPrior prior' = .ok os := by
  obtain ⟨hcheck, ⟨hn, hnone, rfl⟩ | ⟨number, po, b, hn, hp, hseed, rfl⟩⟩ :=
    matchWithPrior_eq_ok_iff.1 hos
  · exact matchWithPrior_eq_ok_iff.2 ⟨checkPrior_perm h hcheck,
      Or.inl ⟨hn, fun r hr => hnone r (h.mem_iff.2 hr), rfl⟩⟩
  · have hcheck' := checkPrior_perm h hcheck
    obtain ⟨b', hseed', hsame⟩ := seed_perm h hseed
    have hplayed := Board.sameClaims_bisimulation.play hsame (List.forall₂_refl s.lines)
    have houtcome := hplayed.outcome_eq
      (Board.play_coherent (Board.seed_coherent hcheck hseed) s.lines)
      (Board.play_coherent (Board.seed_coherent hcheck' hseed') s.lines)
    refine matchWithPrior_eq_ok_iff.2
      ⟨hcheck', Or.inr ⟨number, po, b', hn, hp, hseed', ?_⟩⟩
    rw [houtcome]

end Snapshot

/-! ## Refusals -/

variable {err : EvaluationError}

/-- The first pass stops at a result that it finds inconsistent. -/
theorem MatchResult.checkPrior_eq_error {seen : List ℤ}
    (h : checkPrior s seen prior = .error err) : ∃ r ∈ prior, r.Blamed err := by
  induction prior generalizing seen with
  | nil => cases h
  | cons r rest ih =>
    simp only [checkPrior] at h
    split at h
    · rename_i reason _
      cases h
      exact ⟨r, List.mem_cons_self, Or.inl ⟨reason, rfl⟩⟩
    · obtain ⟨r', hr', hblamed⟩ := ih h
      exact ⟨r', List.mem_cons_of_mem _ hr', hblamed⟩

theorem Board.seedOne_eq_error {number : String} {b : Board} {r : MatchResult}
    (h : b.seedOne number r = .error err) : r.Blamed err := by
  unfold seedOne at h
  split at h
  · rename_i ref strategy href _
    split at h
    · cases h
      exact Or.inr ⟨ref, href, rfl⟩
    · split at h
      · cases h
        exact Or.inl ⟨_, rfl⟩
      · cases h
  · cases h

/-- The second pass stops at a result whose line is not there or is claimed already. -/
theorem Board.seed_eq_error {number : String} {b : Board}
    (h : b.seed number prior = .error err) : ∃ r ∈ prior, r.Blamed err := by
  induction prior generalizing b with
  | nil => cases h
  | cons r rest ih =>
    simp only [seed] at h
    split at h
    · rename_i e he
      cases h
      exact ⟨r, List.mem_cons_self, seedOne_eq_error he⟩
    · obtain ⟨r', hr', hblamed⟩ := ih h
      exact ⟨r', List.mem_cons_of_mem _ hr', hblamed⟩

namespace Snapshot

theorem unplannedOutcomes_eq_error (h : s.unplannedOutcomes prior = .error err) :
    ∃ r ∈ prior, r.Blamed err := by
  unfold unplannedOutcomes at h
  split at h
  · rename_i r hr
    cases h
    exact ⟨r, List.mem_of_find?_eq_some hr, Or.inl ⟨_, rfl⟩⟩
  · cases h

/-- **Every error is about a result of the prior.** -/
theorem matchWithPrior_eq_error (hv : s.Valid) (h : s.matchWithPrior prior = .error err) :
    ∃ r ∈ prior, r.Blamed err := by
  unfold matchWithPrior at h
  rcases bind_eq_error_iff.1 h with hcheck | ⟨_, -, hrest⟩
  · exact MatchResult.checkPrior_eq_error hcheck
  · cases hn : s.header.poNumber with
    | none =>
      rw [hn] at hrest
      exact unplannedOutcomes_eq_error hrest
    | some number =>
      -- the order that is named is there
      obtain ⟨po, hp, -, -⟩ := hv.order number hn
      rw [hn, hp] at hrest
      rcases bind_eq_error_iff.1 hrest with hseed | ⟨_, -, hok⟩
      · exact Board.seed_eq_error hseed
      · cases hok

/-! ## The prior as a whole -/

/-- **Prior results are accepted exactly when they are consistent**, with the snapshot and with each
other, and in whatever order they come: the outcomes are the same too.  They are accepted or refused
as a whole: there is an outcome for every line, or an error about one of the results. -/
theorem matchWithPrior_accepted (hvalid : s.validate = .ok ()) (prior : List MatchResult) :
    ((∃ os, s.matchWithPrior prior = .ok os) ↔ s.AcceptsPrior prior) ∧
      (∀ prior', prior.Perm prior' →
        ∀ os, s.matchWithPrior prior = .ok os ↔ s.matchWithPrior prior' = .ok os) ∧
      (∀ os, s.matchWithPrior prior = .ok os → os.length = s.lines.length) ∧
      (¬s.AcceptsPrior prior →
        ∃ err, s.matchWithPrior prior = .error err ∧ ∃ r ∈ prior, r.Blamed err) := by
  have hv := error?_eq_none_iff.1 (validate_eq_ok_iff.1 hvalid)
  refine ⟨exists_matchWithPrior_iff, ?_, fun _ => length_of_matchWithPrior, ?_⟩
  · intro prior' h os
    exact ⟨matchWithPrior_perm h, matchWithPrior_perm h.symm⟩
  · intro hnot
    cases hres : s.matchWithPrior prior with
    | ok os => exact absurd (exists_matchWithPrior_iff.1 ⟨os, hres⟩) hnot
    | error err => exact ⟨err, rfl, matchWithPrior_eq_error hv hres⟩

set_option maxRecDepth 4000 in
/-- The office invoice has one line given to the sundries and the white paper open, whichever is
named first.  Given twice, the sundries are refused. -/
theorem office_priors :
    (∃ os, office.matchWithPrior
          [sundriesResult, (officeLine 2 "white paper" none).unmatchedResult] = .ok os ∧
        office.matchWithPrior
          [(officeLine 2 "white paper" none).unmatchedResult, sundriesResult] = .ok os ∧
        os.length = 2) ∧
      ∃ err, office.matchWithPrior [sundriesResult, sundriesResult] = .error err ∧
        sundriesResult.Blamed err := by
  have hvalid : office.validate = .ok () := validate_eq_ok_iff.2 (by decide +kernel)
  constructor
  · obtain ⟨os, hos⟩ : ∃ os, office.matchWithPrior
        [sundriesResult, (officeLine 2 "white paper" none).unmatchedResult] = .ok os :=
      exists_ok_of_isSome (by decide +kernel)
    obtain ⟨-, hperm, hlength, -⟩ := matchWithPrior_accepted hvalid
      [sundriesResult, (officeLine 2 "white paper" none).unmatchedResult]
    exact ⟨os, hos, (hperm _ (List.Perm.swap _ _ _) os).1 hos, hlength os hos⟩
  · obtain ⟨-, -, -, hrefused⟩ :=
      matchWithPrior_accepted hvalid [sundriesResult, sundriesResult]
    have hnot : ¬office.AcceptsPrior [sundriesResult, sundriesResult] := by
      intro h
      exact absurd h.lineNums_nodup (by decide)
    obtain ⟨err, herr, r, hr, hblamed⟩ := hrefused hnot
    obtain rfl : r = sundriesResult := by simpa using hr
    exact ⟨err, herr, hblamed⟩

end Snapshot
end Payables
