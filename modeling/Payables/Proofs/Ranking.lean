import Payables.Proofs.Evaluation.Injection
import Payables.Ranking

/-!
# Candidates and evaluations

Candidates are found by trials that leave out guardrails and decisions.  For the order that an
invoice names the trial is the evaluation itself, as far as it goes.

* `filter_firstOfNumber` — of the orders of one number the first is tried, and no other.
* `filter_rankCandidates` — so with room for the whole pool, a number has the candidate that the
  first order of the number makes, and no other.
* `retarget_own`, `trialScore_own` — the trial of the own order has the score of the evaluation.
* `rankCandidates_own` — the candidate of the own order agrees with the evaluation.
-/

namespace Payables

/-! ## Scores look at statuses and confidences -/

theorem InvoiceScore.ofResults_eq_of_related {rs rs' : List MatchResult}
    (h : List.Forall₂ (fun r r' => r.status = r'.status ∧ r.confidence = r'.confidence) rs rs') :
    ofResults rs = ofResults rs' := by
  have hresolved : (rs.filter fun r => r.status.isResolved).map MatchResult.confidence =
      (rs'.filter fun r => r.status.isResolved).map MatchResult.confidence := by
    refine map_eq_of_related (filter_related h ?_) fun _ _ hr => hr.2
    intro r r' hr
    rw [hr.1]
  simp only [ofResults, hresolved, h.length_eq]

/-- Recording guardrails leaves the score as it is. -/
theorem GuardrailPolicy.ofResults_apply {s : Snapshot} {rs : List MatchResult}
    (hlen : rs.length = s.lines.length) (p : GuardrailPolicy) :
    InvoiceScore.ofResults (p.apply s rs) = InvoiceScore.ofResults rs := by
  apply InvoiceScore.ofResults_eq_of_related
  unfold apply
  generalize s.lines = ls at hlen
  induction rs generalizing ls with
  | nil =>
    obtain rfl := List.length_eq_zero_iff.1 hlen.symm
    exact .nil
  | cons r rs ih =>
    cases ls with
    | nil => cases hlen
    | cons l ls => exact .cons ⟨rfl, rfl⟩ (ih ls (Nat.succ.inj hlen))

namespace Snapshot

variable {s : Snapshot} {po : PurchaseOrder} {pool : List PurchaseOrder} {limit : ℕ}

/-! ## One order for each number -/

/-- Of the orders of a number that has not come yet, the first is taken. -/
theorem filter_firstOfNumber (seen : List String) (pool : List PurchaseOrder) (n : String) :
    (firstOfNumber seen pool).filter (fun po => po.poNumber == n) =
      if n ∈ seen then [] else (pool.find? fun po => po.poNumber == n).toList := by
  induction pool generalizing seen with
  | nil => simp [firstOfNumber]
  | cons po rest ih =>
    simp only [firstOfNumber, List.contains_iff_mem]
    by_cases hn : po.poNumber = n
    · by_cases hseen : po.poNumber ∈ seen
      · have hseen' : n ∈ seen := hn ▸ hseen
        rw [if_pos hseen, ih, if_pos hseen', if_pos hseen']
      · have hseen' : n ∉ seen := hn ▸ hseen
        rw [if_neg hseen, if_neg hseen', List.filter_cons_of_pos (by simpa using hn), ih,
          if_pos (by simp [hn]), List.find?_cons_of_pos (by simpa using hn)]
        rfl
    · rw [List.find?_cons_of_neg (by simpa using hn)]
      by_cases hseen : po.poNumber ∈ seen
      · rw [if_pos hseen, ih]
      · have hcons : n ∈ po.poNumber :: seen ↔ n ∈ seen := by simp [Ne.symm hn]
        rw [if_neg hseen, List.filter_cons_of_neg (by simpa using hn), ih]
        simp only [hcons]

theorem firstOfNumber_sublist (seen : List String) (pool : List PurchaseOrder) :
    (firstOfNumber seen pool).Sublist pool := by
  induction pool generalizing seen with
  | nil => exact List.Sublist.refl []
  | cons po rest ih =>
    simp only [firstOfNumber]
    split
    · exact (ih seen).cons po
    · exact (ih _).cons_cons po

/-! ## The candidates of a number -/

/-- A candidate has the number of its order. -/
theorem poNumber_of_candidate? {c : PoCandidate} (h : s.candidate? po = some c) :
    c.poNumber = po.poNumber := by
  unfold candidate? at h
  split at h
  · cases h
  · split at h
    · cases h
    · cases h
      rfl

/-- The candidates of a number are those of the orders of the number. -/
theorem filter_filterMap_candidate? (orders : List PurchaseOrder) (n : String) :
    (orders.filterMap s.candidate?).filter (fun c => c.poNumber == n) =
      (orders.filter fun po => po.poNumber == n).filterMap s.candidate? := by
  rw [List.filter_filterMap, List.filterMap_filter]
  refine List.filterMap_congr fun po _ => ?_
  cases hc : s.candidate? po with
  | none => simp
  | some c =>
    rw [← poNumber_of_candidate? hc]
    rfl

/-- With room for the whole pool no candidate is left out. -/
theorem rankCandidates_eq (h : pool.length ≤ limit) :
    s.rankCandidates pool limit =
      sortBy PoCandidate.le ((firstOfNumber [] pool).filterMap s.candidate?) := by
  have hlen : (sortBy PoCandidate.le
      ((firstOfNumber [] pool).filterMap s.candidate?)).length ≤ limit := by
    rw [length_sortBy]
    exact (List.length_filterMap_le _ _).trans ((firstOfNumber_sublist [] pool).length_le.trans h)
  unfold rankCandidates
  split
  · rename_i hzero
    rw [hzero] at hlen
    exact (List.length_eq_zero_iff.1 (Nat.le_zero.1 hlen)).symm
  · exact List.take_of_length_le hlen

/-- **The candidate of a number** is that of the first order of the number, if it makes one. -/
theorem filter_rankCandidates (h : pool.length ≤ limit) (n : String) :
    (s.rankCandidates pool limit).filter (fun c => c.poNumber == n) =
      ((pool.find? fun po => po.poNumber == n).bind s.candidate?).toList := by
  have hperm := (sortBy_perm PoCandidate.le
    ((firstOfNumber [] pool).filterMap s.candidate?)).filter fun c => c.poNumber == n
  rw [filter_filterMap_candidate?, filter_firstOfNumber, if_neg List.not_mem_nil] at hperm
  rw [rankCandidates_eq h]
  cases hfirst : pool.find? fun po => po.poNumber == n with
  | none =>
    rw [hfirst] at hperm
    exact hperm.eq_nil
  | some po =>
    rw [hfirst] at hperm
    show _ = (s.candidate? po).toList
    cases hc : s.candidate? po with
    | none =>
      rw [Option.toList_some, List.filterMap_cons_none hc] at hperm
      exact hperm.eq_nil
    | some c =>
      rw [Option.toList_some, List.filterMap_cons_some hc] at hperm
      exact hperm.eq_singleton

/-! ## The own order -/

section Own

variable {p : GuardrailPolicy} {t : Threshold} {e : Evaluation}

/-- A trial against the own order changes nothing. -/
theorem retarget_own (hn : s.header.poNumber = some po.poNumber)
    (hp : s.purchaseOrder = some po) : s.retarget po = s := by
  unfold retarget
  rw [if_pos hn, ← hn, ← hp]

/-- **The trial of the own order** has the score of the evaluation. -/
theorem trialScore_own (hn : s.header.poNumber = some po.poNumber)
    (hp : s.purchaseOrder = some po) (he : s.evaluate p t = .ok e) :
    s.trialScore po = .ok e.score := by
  obtain ⟨hvalid, os, scored, hos, hscored, hdecide⟩ := evaluateWithPrior_eq_ok_iff.1 he
  obtain ⟨-, ds, -, rfl⟩ := decide_eq_ok_iff.1 hdecide
  unfold trialScore
  rw [retarget_own hn hp]
  refine bind_eq_ok_iff.2 ⟨(), validate_eq_ok_iff.2 hvalid, ?_⟩
  refine bind_eq_ok_iff.2 ⟨os, hos, ?_⟩
  refine bind_eq_ok_iff.2 ⟨scored, hscored, ?_⟩
  exact congrArg Except.ok (GuardrailPolicy.ofResults_apply (length_of_scored hos hscored) p).symm

theorem candidate?_own (hn : s.header.poNumber = some po.poNumber)
    (hp : s.purchaseOrder = some po) (he : s.evaluate p t = .ok e) :
    s.candidate? po =
      if e.score.resolved = 0 then none
      else some ⟨po.poNumber, e.score.resolved, e.score.confidence⟩ := by
  unfold candidate?
  rw [trialScore_own hn hp he]

/-- **Ranking agrees with evaluation.**  Where an invoice is evaluated against the order that it
names, and a pool has that order as the first of its number, then with room for the whole pool the
number is among the candidates exactly where a line is resolved, with the resolved lines and the
confidence of the evaluation. -/
theorem rankCandidates_own {n : String} (hn : s.header.poNumber = some n)
    (hp : s.purchaseOrder = some po)
    (hfirst : (pool.find? fun order => order.poNumber == n) = some po)
    (hlimit : pool.length ≤ limit) (he : s.evaluate p t = .ok e) :
    ((∃ c ∈ s.rankCandidates pool limit, c.poNumber = n) ↔ 0 < e.score.resolved) ∧
      ∀ c ∈ s.rankCandidates pool limit, c.poNumber = n →
        c.matchedLines = e.score.resolved ∧ c.confidence = e.score.confidence := by
  obtain rfl : po.poNumber = n := by simpa using List.find?_some hfirst
  have hmem : ∀ c, c ∈ s.rankCandidates pool limit ∧ c.poNumber = po.poNumber ↔
      0 < e.score.resolved ∧ c = ⟨po.poNumber, e.score.resolved, e.score.confidence⟩ := by
    intro c
    have hfilter := filter_rankCandidates (s := s) hlimit po.poNumber
    rw [hfirst, Option.bind_some, candidate?_own hn hp he] at hfilter
    have hiff : c ∈ s.rankCandidates pool limit ∧ c.poNumber = po.poNumber ↔
        c ∈ (s.rankCandidates pool limit).filter fun c => c.poNumber == po.poNumber := by
      rw [List.mem_filter, beq_iff_eq]
    rw [hiff, hfilter]
    by_cases hzero : e.score.resolved = 0
    · simp [hzero]
    · simp [hzero, Nat.pos_of_ne_zero hzero]
  constructor
  · constructor
    · rintro ⟨c, hc, hnum⟩
      exact ((hmem c).1 ⟨hc, hnum⟩).1
    · intro hpos
      exact ⟨_, (hmem _).2 ⟨hpos, rfl⟩⟩
  · intro c hc hnum
    obtain ⟨-, rfl⟩ := (hmem c).1 ⟨hc, hnum⟩
    exact ⟨rfl, rfl⟩

end Own

/-- Another order of the same vendor. -/
def stationeryOrder : PurchaseOrder where
  poNumber := "P-3"
  vendorId := "V-1"
  created := ⟨2024, 1, 1⟩
  lines := [⟨"P-3", 1, "white paper", Decimal.ofInt 3, Decimal.ofInt 4, none, none⟩]

/-- The pool that the office invoice is tried against: one order before its own, and one after it
with the same number. -/
def officePool : List PurchaseOrder :=
  [stationeryOrder, officeOrder, { stationeryOrder with poNumber := "P-2" }]

set_option maxRecDepth 4000 in
/-- The office invoice matches both lines of its own order with a mean confidence of fifty; a later
order of the same number is not looked at. -/
theorem office_rankCandidates :
    ∃ e c, office.evaluate .default .default = .ok e ∧ e.score = ⟨some 50, 2, 0⟩ ∧
      c ∈ office.rankCandidates officePool 3 ∧ c.poNumber = "P-2" ∧ c.matchedLines = 2 ∧
      c.confidence = some 50 := by
  have hsome : (office.evaluate .default .default).toOption.map Evaluation.score =
      some ⟨some 50, 2, 0⟩ := by decide +kernel
  obtain ⟨e, he⟩ := office_evaluates
  have hscore : e.score = ⟨some 50, 2, 0⟩ := by
    rw [he] at hsome
    exact Option.some.inj hsome
  have hfirst : (officePool.find? fun order => order.poNumber == "P-2") = some officeOrder := rfl
  have hroom : officePool.length ≤ 3 := by decide
  obtain ⟨hiff, hown⟩ := rankCandidates_own rfl rfl hfirst hroom he
  rw [hscore] at hiff hown
  obtain ⟨c, hc, hnum⟩ := hiff.2 (by decide)
  obtain ⟨hmatched, hconfidence⟩ := hown c hc hnum
  exact ⟨e, c, he, hscore, hc, hnum, hmatched, hconfidence⟩

end Snapshot
end Payables
