import Payables.Proofs.Evaluation.Injection
import Payables.Proofs.Matching.Priority

/-!
# Priority is exact

On a valid snapshot with a purchase order, matching succeeds (`matchLines_eq_ok`), gives every line
by the rule of a strategy, and passes a line by only where earlier turns were first
(`matchLines_priority`).
-/

namespace Payables.Snapshot

variable {s : Snapshot}

/-- Without a prior, matching plays the fresh board of the purchase order. -/
theorem matchLines_eq_ok (hv : s.Valid) {number : String} (hn : s.header.poNumber = some number) :
    ∃ po, s.purchaseOrder = some po ∧ po.poNumber = number ∧ po.Valid ∧
      s.matchLines = .ok (s.lines.map ((Board.ofOrder po s.receipts).play s.lines).outcome) := by
  obtain ⟨po, hp, hnum, hpo⟩ := hv.order number hn
  exact ⟨po, hp, hnum, hpo,
    matchWithPrior_eq_ok_iff.2 ⟨rfl, Or.inr ⟨number, po, _, hn, hp, rfl, rfl⟩⟩⟩

theorem outcome_eq_assigned_iff {b : Board} {l : InvoiceLine} {a : Assignment} :
    b.outcome l = .assigned a ↔ b.assignment? l.lineNum = some a := by
  unfold Board.outcome
  cases b.assignment? l.lineNum <;> simp

/-- Lines of one number are one. -/
theorem Valid.eq_of_lineNum_eq (hv : s.Valid) {l m : InvoiceLine} (hl : l ∈ s.lines)
    (hm : m ∈ s.lines) (h : l.lineNum = m.lineNum) : l = m :=
  List.inj_on_of_nodup_map hv.lineNums_nodup hl hm h

section Played

variable {po : PurchaseOrder} {i : ℕ} {l : InvoiceLine} {a : Assignment}

/-- The outcomes of the fresh board, once it is played. -/
def playedOutcomes (s : Snapshot) (po : PurchaseOrder) : List LineOutcome :=
  s.lines.map ((Board.ofOrder po s.receipts).play s.lines).outcome

/-- An assigned outcome is a claim on the played board. -/
theorem playedOutcomes_eq_assigned_iff (hl : s.lines[i]? = some l) :
    (s.playedOutcomes po)[i]? = some (.assigned a) ↔
      ⟨l.lineNum, a⟩ ∈ ((Board.ofOrder po s.receipts).play s.lines).claims := by
  have hcoh := Board.play_coherent (Board.coherent_ofOrder po s.receipts) s.lines
  rw [playedOutcomes, List.getElem?_map, hl, Option.map_some, Option.some.injEq,
    outcome_eq_assigned_iff, hcoh.assignment?_eq_some_iff]

/-- Who is assigned anything, but by elimination, fits the rule of the strategy. -/
theorem accepts_of_playedOutcomes (hv : s.Valid) (hl : s.lines[i]? = some l)
    (ha : (s.playedOutcomes po)[i]? = some (.assigned a)) (hstrategy : a.strategy ≠ .elimination) :
    ∃ q ∈ po.lines, q.lineNum = a.poLine ∧ a.strategy.Accepts s.receipts l q ∧
      a.rawConfidence = a.strategy.pairConfidence s.receipts l q := by
  have hext := Board.play_extended (Board.coherent_ofOrder po s.receipts) s.lines
  rcases hext.kind_or_mem ((playedOutcomes_eq_assigned_iff hl).1 ha) with
    (⟨⟨S, m⟩, ht, x, hx, haccepts, heq⟩ | ⟨_, -, _, -, heq⟩) | hmem
  · obtain ⟨hnum, rfl⟩ := BoardClaim.mk.injEq .. ▸ heq
    have hm := Board.mem_inOrder.1 (Board.mem_turnsOf.1 ht).2
    obtain rfl := hv.eq_of_lineNum_eq (List.mem_of_getElem? hl) hm hnum
    obtain ⟨q, hq, rfl⟩ := Board.mem_entries_ofOrder.1 hx
    exact ⟨q, hq, rfl, haccepts, rfl⟩
  · exact absurd (congrArg (fun c => c.assignment.strategy) heq) hstrategy
  · cases hmem

/-- What a strategy could have given a line that it and the earlier ones give nothing, an earlier
turn has taken. -/
theorem taken_of_accepts (hv : s.Valid) (hl : s.lines[i]? = some l) {S : Strategy}
    (hS : S ∈ Strategy.proposing) {q : PurchaseOrderLine} (hq : q ∈ po.lines)
    (hlater : ∀ a, (s.playedOutcomes po)[i]? = some (.assigned a) →
      S.position < a.strategy.position)
    (haccepts : S.Accepts s.receipts l q) :
    ∃ (j : ℕ) (m : InvoiceLine) (a : Assignment), s.lines[j]? = some m ∧
      (s.playedOutcomes po)[j]? = some (.assigned a) ∧ a.poLine = q.lineNum ∧
      (a.strategy.position < S.position ∨ a.strategy = S ∧ m.lineNum < l.lineNum) := by
  have hfresh := Board.coherent_ofOrder po s.receipts
  have hopen : ∀ c ∈ ((Board.ofOrder po s.receipts).play s.lines).claims,
      c.lineNum = l.lineNum → S.position < c.assignment.strategy.position := by
    intro c hc hcl
    apply hlater
    rw [playedOutcomes_eq_assigned_iff hl, ← hcl]
    exact hc
  have hentry : ⟨q, TokenSet.ofText q.description⟩ ∈ (Board.ofOrder po s.receipts).entries :=
    Board.mem_entries_ofOrder.2 ⟨q, hq, rfl⟩
  obtain ⟨c, hc, hcp, hmem | ⟨⟨T, m⟩, ht, ⟨x, -, -, rfl⟩, hprecedes⟩⟩ :=
    Board.claimed_of_accepts hfresh hv.lineNums_nodup (List.mem_of_getElem? hl) hS rfl hopen
      hentry haccepts
  · cases hmem
  · have hm := Board.mem_inOrder.1 (Board.mem_turnsOf.1 ht).2
    obtain ⟨j, hj⟩ := List.getElem?_of_mem hm
    exact ⟨j, m, _, hj, (playedOutcomes_eq_assigned_iff hj).2 hc, hcp, hprecedes⟩

end Played

/-- **Priority is exact.**  Every assignment but that of an elimination follows the rule of its
strategy, with the confidence of the pair, between floor and weight.  And where a line is given
nothing by a strategy or an earlier one, every line of the order that the strategy accepts for it is
taken by an earlier turn: of a strategy of higher priority, or of the same one at a smaller line
number. -/
theorem matchLines_priority (hvalid : s.validate = .ok ()) {number : String}
    (hn : s.header.poNumber = some number) :
    ∃ po os, s.purchaseOrder = some po ∧ s.matchLines = .ok os ∧ os.length = s.lines.length ∧
      (∀ (i : ℕ) (l : InvoiceLine) (a : Assignment), s.lines[i]? = some l →
        os[i]? = some (.assigned a) → a.strategy ≠ .elimination →
          ∃ q ∈ po.lines, q.lineNum = a.poLine ∧ a.strategy.Accepts s.receipts l q ∧
            a.rawConfidence = a.strategy.pairConfidence s.receipts l q ∧
            a.strategy.floor ≤ a.rawConfidence ∧ a.rawConfidence ≤ a.strategy.weight) ∧
      ∀ (i : ℕ) (l : InvoiceLine) (strategy : Strategy) (q : PurchaseOrderLine),
        s.lines[i]? = some l → strategy ∈ Strategy.proposing → q ∈ po.lines →
        (∀ a, os[i]? = some (.assigned a) → strategy.position < a.strategy.position) →
        strategy.Accepts s.receipts l q →
          ∃ (j : ℕ) (m : InvoiceLine) (a : Assignment), s.lines[j]? = some m ∧
            os[j]? = some (.assigned a) ∧ a.poLine = q.lineNum ∧
            (a.strategy.position < strategy.position ∨
              a.strategy = strategy ∧ m.lineNum < l.lineNum) := by
  have hv := error?_eq_none_iff.1 (validate_eq_ok_iff.1 hvalid)
  obtain ⟨po, hp, -, -, hok⟩ := matchLines_eq_ok hv hn
  refine ⟨po, s.playedOutcomes po, hp, hok, List.length_map _, ?_, ?_⟩
  · intro i l a hl ha hstrategy
    obtain ⟨q, hq, hnum, haccepts, hraw⟩ := accepts_of_playedOutcomes hv hl ha hstrategy
    obtain ⟨hfloor, hweight⟩ := Board.pairConfidence_mem haccepts
    rw [← hraw] at hfloor hweight
    exact ⟨q, hq, hnum, haccepts, hraw, hfloor, hweight⟩
  · intro i l strategy q hl hstrategy hq hlater haccepts
    exact taken_of_accepts hv hl hstrategy hq hlater haccepts

set_option maxRecDepth 4000 in
/-- The office invoice: white paper resembles line 20, which the other line has named. -/
theorem office_priority :
    ∃ os, office.matchLines = .ok os ∧ ∃ (j : ℕ) (m : InvoiceLine) (a : Assignment),
      office.lines[j]? = some m ∧ os[j]? = some (.assigned a) ∧ a.poLine = 20 ∧
        (a.strategy.position < Strategy.semantic.position ∨
          a.strategy = .semantic ∧ m.lineNum < 2) := by
  have hvalid : office.validate = .ok () :=
    validate_eq_ok_iff.2 (by decide +kernel)
  have houtcomes : office.matchLines.toOption =
      some [.assigned ⟨10, .elimination, 40⟩, .assigned ⟨20, .keyBased, 100⟩] := by decide +kernel
  obtain ⟨po, os, hp, hos, -, -, henvy⟩ := matchLines_priority hvalid rfl
  cases hp
  rw [hos] at houtcomes
  obtain rfl := Option.some.inj houtcomes
  refine ⟨_, hos, henvy 0 (officeLine 2 "white paper" none) .semantic
    ⟨"P-2", 20, "white paper", Decimal.ofInt 3, Decimal.ofInt 4, none, none⟩ rfl (by decide)
    (by decide) ?_ (by decide +kernel)⟩
  intro a ha
  cases ha
  decide

end Payables.Snapshot
