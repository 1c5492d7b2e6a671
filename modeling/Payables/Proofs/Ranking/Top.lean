import Payables.Proofs.Evaluation.Errors
import Payables.Proofs.Ranking

/-!
# The ranking of a pool

What a limit cuts off is the end of one list, the ranking of the pool.  It stands in the strict
order of the three keys (`PoCandidate.Before`), and who is in it depends for every number on the
first order of that number alone (`mem_ranking_iff`), so two pools in which these make the same
candidates have the same ranking (`filter_ranking_congr`).

* `exists_trialScore` — a trial can only fail on its documents; once those are valid it has a score,
  which counts the lines that matching assigns.
* `rankCandidates_top` — all of it together.
-/

namespace Payables

/-! ## The order of candidates -/

namespace PoCandidate

variable {a b c : PoCandidate}

/-- A candidate stands before another: with more matched lines, or as many and a higher confidence,
or as many, the same confidence and a smaller number. -/
def Before (a b : PoCandidate) : Prop :=
  b.matchedLines < a.matchedLines ∨ a.matchedLines = b.matchedLines ∧
    (confidenceRank b.confidence < confidenceRank a.confidence ∨
      a.confidence = b.confidence ∧ a.poNumber < b.poNumber)

theorem confidenceRank_injective : Function.Injective confidenceRank := by
  intro x y h
  cases x with
  | none =>
    cases y with
    | none => rfl
    | some d => simp [confidenceRank] at h
  | some c =>
    cases y with
    | none => simp [confidenceRank] at h
    | some d => exact congrArg some (UInt8.toNat_inj.1 (Nat.succ.inj h))

/-- The three keys, the first two turned round. -/
def sortKey (c : PoCandidate) : ℕᵒᵈ ×ₗ ℕᵒᵈ ×ₗ String :=
  toLex (OrderDual.toDual c.matchedLines,
    toLex (OrderDual.toDual (confidenceRank c.confidence), c.poNumber))

theorem sortKey_injective : Function.Injective sortKey := by
  rintro ⟨n, m, x⟩ ⟨n', m', x'⟩ h
  simp only [sortKey, EmbeddingLike.apply_eq_iff_eq, Prod.mk.injEq] at h
  obtain ⟨rfl, hrank, rfl⟩ := h
  rw [confidenceRank_injective hrank]

theorem before_iff : a.Before b ↔ a.sortKey < b.sortKey := by
  simp only [Before, sortKey, Prod.Lex.toLex_lt_toLex, OrderDual.toDual_lt_toDual,
    EmbeddingLike.apply_eq_iff_eq, confidenceRank_injective.eq_iff]

theorem le_iff : a.le b = true ↔ a.sortKey ≤ b.sortKey := by
  simp only [le, sortKey, Prod.Lex.toLex_le_toLex, OrderDual.toDual_lt_toDual,
    EmbeddingLike.apply_eq_iff_eq, textLe]
  by_cases hlines : a.matchedLines = b.matchedLines
  · by_cases hrank : confidenceRank a.confidence = confidenceRank b.confidence
    · simp [hlines, hrank]
    · simp [hlines, hrank]
  · simp [hlines]

instance : Std.Irrefl Before := ⟨fun _ h => lt_irrefl _ (before_iff.1 h)⟩

instance : Std.Antisymm Before :=
  ⟨fun _ _ h h' => absurd (before_iff.1 h') (lt_asymm (before_iff.1 h))⟩

end PoCandidate

/-! ## Scores of trials -/

/-- A line of the purchase order was found. -/
def LineOutcome.isAssigned : LineOutcome → Bool
  | assigned _ => true
  | unmatched | unplanned => false

/-- Exactly what is assigned is resolved. -/
theorem InvoiceLine.isResolved_of_score {l : InvoiceLine} {po : Option PurchaseOrder}
    {o : LineOutcome} {r : MatchResult} (h : l.score po o = .ok r) :
    r.status.isResolved = o.isAssigned := by
  obtain ⟨rfl, rfl⟩ | ⟨rfl, rfl⟩ | ⟨a, order, q, rfl, -, -, rfl⟩ := score_eq_ok_iff.1 h
  · rfl
  · rfl
  · exact Variance.classify_isResolved a.strategy (Variance.measure l q)

/-- A score counts the lines that are assigned. -/
theorem InvoiceScore.resolved_eq {po : Option PurchaseOrder} {ls : List InvoiceLine}
    {os : List LineOutcome} {rs : List MatchResult} (hlen : os.length = ls.length)
    (h : scoreLines po (ls.zip os) = .ok rs) :
    (ofResults rs).resolved = os.countP LineOutcome.isAssigned := by
  have hcount : ((ls.zip os).map Prod.snd).map LineOutcome.isAssigned =
      rs.map fun r => r.status.isResolved := by
    rw [List.map_map]
    refine map_eq_of_related (scoreLines_eq_ok_iff.1 h) fun x r hr => ?_
    exact (InvoiceLine.isResolved_of_score hr).symm
  rw [List.map_snd_zip hlen.le] at hcount
  calc (ofResults rs).resolved
      = rs.countP fun r => r.status.isResolved := by
        rw [List.countP_eq_length_filter]
        exact List.length_map _
    _ = (rs.map fun r => r.status.isResolved).countP id := by
        rw [List.countP_map]
        rfl
    _ = (os.map LineOutcome.isAssigned).countP id := by rw [hcount]
    _ = os.countP LineOutcome.isAssigned := List.countP_map

namespace Snapshot

variable {s : Snapshot} {po : PurchaseOrder} {pool pool' : List PurchaseOrder} {c : PoCandidate}

theorem validate_of_trialScore {score : InvoiceScore} (h : s.trialScore po = .ok score) :
    (s.retarget po).validate = .ok () := by
  obtain ⟨⟨⟩, hvalid, -⟩ := bind_eq_ok_iff.1 h
  exact hvalid

/-- **A trial on valid documents has a score**, which counts the lines that are assigned. -/
theorem exists_trialScore (hvalid : (s.retarget po).validate = .ok ()) :
    ∃ os score, (s.retarget po).matchLines = .ok os ∧ s.trialScore po = .ok score ∧
      score.resolved = os.countP LineOutcome.isAssigned := by
  have hv := error?_eq_none_iff.1 (validate_eq_ok_iff.1 hvalid)
  obtain ⟨os, hos⟩ := exists_matchLines hv
  obtain ⟨rs, hrs⟩ := exists_scored hv hos
  refine ⟨os, InvoiceScore.ofResults rs, hos, ?_,
    InvoiceScore.resolved_eq (length_of_matchWithPrior hos) hrs⟩
  exact bind_eq_ok_iff.2 ⟨(), hvalid, bind_eq_ok_iff.2 ⟨os, hos, bind_eq_ok_iff.2 ⟨rs, hrs, rfl⟩⟩⟩

theorem candidate?_eq_some_iff :
    s.candidate? po = some c ↔ ∃ score, s.trialScore po = .ok score ∧ 0 < score.resolved ∧
      c = ⟨po.poNumber, score.resolved, score.confidence⟩ := by
  unfold candidate?
  cases s.trialScore po with
  | error e => simp
  | ok score =>
    by_cases hzero : score.resolved = 0
    · simp [hzero]
    · simp [hzero, Nat.pos_of_ne_zero hzero, eq_comm]

/-! ## The ranking -/

/-- All candidates of a pool. -/
def ranking (s : Snapshot) (pool : List PurchaseOrder) : List PoCandidate :=
  s.rankCandidates pool pool.length

/-- The first order of a number. -/
def firstOf (pool : List PurchaseOrder) (number : String) : Option PurchaseOrder :=
  pool.find? fun po => po.poNumber == number

/-- A limit keeps the first candidates of the ranking. -/
theorem rankCandidates_eq_take (s : Snapshot) (pool : List PurchaseOrder) (limit : ℕ) :
    s.rankCandidates pool limit = (s.ranking pool).take limit := by
  rw [ranking, rankCandidates_eq le_rfl, rankCandidates]
  split
  · rename_i hzero
    rw [hzero, List.take_zero]
  · rfl

/-- The candidates of a number are in the ranking where its first order makes them. -/
theorem mem_ranking_iff :
    c ∈ s.ranking pool ↔ (firstOf pool c.poNumber).bind s.candidate? = some c := by
  have hfilter := filter_rankCandidates (s := s) (le_refl pool.length) c.poNumber
  have hmem : c ∈ s.ranking pool ↔
      c ∈ (s.rankCandidates pool pool.length).filter fun c' => c'.poNumber == c.poNumber := by
    rw [List.mem_filter, beq_self_eq_true, and_iff_left rfl]
    rfl
  rw [hmem, hfilter, Option.mem_toList]
  rfl

/-- No number is ranked twice. -/
theorem ranking_nodup (s : Snapshot) (pool : List PurchaseOrder) :
    ((s.ranking pool).map PoCandidate.poNumber).Nodup := by
  refine List.nodup_iff_count_le_one.2 fun number => ?_
  have hfilter := filter_rankCandidates (s := s) (le_refl pool.length) number
  calc ((s.ranking pool).map PoCandidate.poNumber).count number
      = ((s.ranking pool).filter fun c => c.poNumber == number).length := by
        rw [List.count_eq_countP, List.countP_map, List.countP_eq_length_filter]
        rfl
    _ = ((firstOf pool number).bind s.candidate?).toList.length := congrArg List.length hfilter
    _ ≤ 1 := by cases (firstOf pool number).bind s.candidate? <;> simp

/-- **The ranking is in strict order.** -/
theorem ranking_pairwise (s : Snapshot) (pool : List PurchaseOrder) :
    (s.ranking pool).Pairwise PoCandidate.Before := by
  have hsorted : (s.ranking pool).Pairwise fun a b => a.le b = true := by
    rw [ranking, rankCandidates_eq le_rfl]
    refine sortBy_pairwise_le ?_ ?_ _
    · intro a b
      rw [PoCandidate.le_iff, PoCandidate.le_iff]
      exact le_total _ _
    · intro a b c
      rw [PoCandidate.le_iff, PoCandidate.le_iff, PoCandidate.le_iff]
      exact le_trans
  refine (hsorted.and (List.pairwise_map.1 (s.ranking_nodup pool))).imp ?_
  rintro a b ⟨hle, hne⟩
  refine PoCandidate.before_iff.2 (lt_of_le_of_ne (PoCandidate.le_iff.1 hle) fun heq => ?_)
  exact hne (congrArg PoCandidate.poNumber (PoCandidate.sortKey_injective heq))

/-- Pools whose first orders make the same candidates of some numbers rank these alike. -/
theorem filter_ranking_congr (keep : String → Bool)
    (h : ∀ number, keep number = true →
      (firstOf pool number).bind s.candidate? = (firstOf pool' number).bind s.candidate?) :
    (s.ranking pool).filter (fun c => keep c.poNumber) =
      (s.ranking pool').filter fun c => keep c.poNumber := by
  refine ((s.ranking_pairwise pool).filter _).eq_of_mem_iff ((s.ranking_pairwise pool').filter _) ?_
  intro c
  simp only [List.mem_filter, mem_ranking_iff]
  refine and_congr_left fun hkeep => ?_
  rw [h _ hkeep]

theorem ranking_congr (h : ∀ number, firstOf pool number = firstOf pool' number) :
    s.ranking pool = s.ranking pool' := by
  have hall : (s.ranking pool).filter (fun _ => true) = (s.ranking pool').filter fun _ => true :=
    filter_ranking_congr (fun _ => true) fun number _ => by rw [h number]
  simpa using hall

/-! ## Changes of the pool -/

section Changes

variable {before after : List PurchaseOrder}

/-- An order is not looked at where one of its number came before. -/
theorem firstOf_repeated (h : po.poNumber ∈ before.map fun order => order.poNumber)
    (number : String) :
    firstOf (before ++ po :: after) number = firstOf (before ++ after) number := by
  unfold firstOf
  rw [List.find?_append, List.find?_append]
  cases hbefore : before.find? fun order => order.poNumber == number with
  | some order => rfl
  | none =>
    have hne : po.poNumber ≠ number := by
      rintro rfl
      obtain ⟨order, horder, hnum⟩ := List.mem_map.1 h
      exact List.find?_eq_none.1 hbefore order horder (by simpa using hnum)
    rw [List.find?_cons_of_neg (by simpa using hne)]

/-- An order is not the first of any number but its own. -/
theorem firstOf_other {number : String} (hne : number ≠ po.poNumber) :
    firstOf (before ++ po :: after) number = firstOf (before ++ after) number := by
  unfold firstOf
  rw [List.find?_append, List.find?_append, List.find?_cons_of_neg (by simpa using hne.symm)]

end Changes

/-- **The ranking of a pool.**  A limit keeps the first candidates of one list.  That list is in
strict order: more matched lines first, then the higher confidence, then the smaller number; and no
number is in it twice.  A number is in it exactly where the first order of that number passes
validation as the order of the invoice and resolves a line, with the resolved lines and the
confidence of this trial, which has a score whenever it passes validation.  An order whose number
came before has no effect, none has an effect on the candidates of other numbers, and where no
number is repeated the order of the pool does not matter. -/
theorem rankCandidates_top (s : Snapshot) (pool : List PurchaseOrder) :
    (∀ limit, s.rankCandidates pool limit = (s.ranking pool).take limit) ∧
      (s.ranking pool).Pairwise PoCandidate.Before ∧
      ((s.ranking pool).map PoCandidate.poNumber).Nodup ∧
      (∀ c, c ∈ s.ranking pool ↔ ∃ po score, firstOf pool c.poNumber = some po ∧
        (s.retarget po).validate = .ok () ∧ s.trialScore po = .ok score ∧ 0 < score.resolved ∧
        c.matchedLines = score.resolved ∧ c.confidence = score.confidence) ∧
      (∀ po, (s.retarget po).validate = .ok () → ∃ os score, (s.retarget po).matchLines = .ok os ∧
        s.trialScore po = .ok score ∧ score.resolved = os.countP LineOutcome.isAssigned) ∧
      (∀ before po after, pool = before ++ po :: after →
        (po.poNumber ∈ before.map (fun order => order.poNumber) →
          s.ranking pool = s.ranking (before ++ after)) ∧
        (s.ranking pool).filter (fun c => c.poNumber != po.poNumber) =
          (s.ranking (before ++ after)).filter fun c => c.poNumber != po.poNumber) ∧
      ((pool.map fun po => po.poNumber).Nodup →
        ∀ pool', pool.Perm pool' → s.ranking pool' = s.ranking pool) := by
  refine ⟨s.rankCandidates_eq_take pool, s.ranking_pairwise pool, s.ranking_nodup pool, ?_,
    fun po => exists_trialScore, ?_, ?_⟩
  · intro c
    rw [mem_ranking_iff]
    constructor
    · intro h
      obtain ⟨po, hfirst, hc⟩ := Option.bind_eq_some_iff.1 h
      obtain ⟨score, hscore, hpos, rfl⟩ := candidate?_eq_some_iff.1 hc
      exact ⟨po, score, hfirst, validate_of_trialScore hscore, hscore, hpos, rfl, rfl⟩
    · rintro ⟨po, score, hfirst, -, hscore, hpos, hlines, hconfidence⟩
      have hnum : po.poNumber = c.poNumber := by simpa using List.find?_some hfirst
      refine Option.bind_eq_some_iff.2 ⟨po, hfirst, ?_⟩
      refine candidate?_eq_some_iff.2 ⟨score, hscore, hpos, ?_⟩
      rw [hnum, ← hlines, ← hconfidence]
  · rintro before po after rfl
    constructor
    · intro hrepeated
      exact ranking_congr (firstOf_repeated hrepeated)
    · refine filter_ranking_congr (fun number => number != po.poNumber) fun number hne => ?_
      rw [firstOf_other (by simpa using hne)]
  · intro hnodup pool' hperm
    refine ranking_congr fun number => ?_
    exact (find?_key_eq_of_perm (fun po : PurchaseOrder => po.poNumber) hperm hnodup number).symm

set_option maxRecDepth 4000 in
/-- Two matched lines stand before one of a higher confidence, whatever the order of the pool; the
second order of a number is not looked at. -/
theorem office_ranking :
    office.ranking officePool = [⟨"P-2", 2, some 50⟩, ⟨"P-3", 1, some 75⟩] ∧
      office.ranking [officeOrder, stationeryOrder] = office.ranking officePool := by
  have hranked : office.ranking officePool = [⟨"P-2", 2, some 50⟩, ⟨"P-3", 1, some 75⟩] := by
    decide +kernel
  obtain ⟨-, -, -, -, -, hchange, -⟩ := office.rankCandidates_top officePool
  obtain ⟨-, -, -, -, -, -, horder⟩ := office.rankCandidates_top [stationeryOrder, officeOrder]
  have hrepeated := (hchange [stationeryOrder, officeOrder] _ [] rfl).1 (by decide)
  have hreversed := horder (by decide) [officeOrder, stationeryOrder] (List.Perm.swap _ _ _)
  exact ⟨hranked, hreversed.trans hrepeated.symm⟩

end Snapshot
end Payables
