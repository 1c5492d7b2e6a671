import Payables.Proofs.Evaluation.Priority
import Payables.Proofs.Evaluation.Seeding

/-!
# Elimination

Elimination comes last and pairs two lines only where there is nothing else to pair: one invoice
line that is open, and one line of the order that is free.

* `Board.OneToOne` — such a remainder; `eliminate_completes` says that nothing is left after it, and
  `oneToOne_of_elimination` that no claim of elimination comes from anywhere else.
* `unmatchedLines_eq`, `length_unclaimedLines` — what outcomes leave over is what the board behind
  them leaves over.
* `matchWithPrior_elimination` — elimination happens exactly on such a remainder.
-/

namespace Payables

/-- All strategies but elimination have turns. -/
theorem Strategy.mem_proposing_iff {s : Strategy} : s ∈ proposing ↔ s ≠ .elimination := by
  cases s <;> decide

/-! ## Boards -/

namespace Board

variable {ls : List InvoiceLine} {b : Board} {l : InvoiceLine} {e : BoardEntry}

/-- All that is left is this open line and this free line. -/
structure OneToOne (ls : List InvoiceLine) (b : Board) (l : InvoiceLine) (e : BoardEntry) :
    Prop where
  opened : openLines ls b = [l]
  free : b.free = [e]

theorem openLines_inOrder (ls : List InvoiceLine) (b : Board) :
    (openLines (inOrder ls) b).Perm (openLines ls b) :=
  (sortBy_perm _ ls).filter _

theorem oneToOne_inOrder : OneToOne (inOrder ls) b l e ↔ OneToOne ls b l e := by
  have hopen : openLines (inOrder ls) b = [l] ↔ openLines ls b = [l] := by
    rw [← List.perm_singleton, ← List.perm_singleton]
    exact ⟨(openLines_inOrder ls b).symm.trans, (openLines_inOrder ls b).trans⟩
  exact ⟨fun h => ⟨hopen.1 h.opened, h.free⟩, fun h => ⟨hopen.2 h.opened, h.free⟩⟩

theorem OneToOne.mem (h : OneToOne ls b l e) : l ∈ ls ∧ b.isAssigned l.lineNum = false := by
  have hmem : l ∈ openLines ls b := by simp [h.opened]
  simpa [openLines] using hmem

theorem OneToOne.eliminate_eq (h : OneToOne ls b l e) :
    eliminate ls b = b.claim l.lineNum
      ⟨e.line.lineNum, .elimination, Strategy.elimination.weight⟩ := by
  have hopen := h.opened
  unfold openLines at hopen
  unfold eliminate
  rw [hopen, h.free]

/-- **Elimination leaves nothing**, where there is something to eliminate. -/
theorem OneToOne.eliminate_completes (h : OneToOne ls b l e) :
    openLines ls (eliminate ls b) = [] ∧ (eliminate ls b).free = [] := by
  rw [h.eliminate_eq]
  constructor
  · refine List.filter_eq_nil_iff.2 fun m hm => ?_
    by_cases hassigned : b.isAssigned m.lineNum = true
    · have hext : Extended (fun _ => True) b (b.claim l.lineNum
          ⟨e.line.lineNum, .elimination, Strategy.elimination.weight⟩) :=
        Extended.claim _ _ trivial
      simp [hext.isAssigned hassigned]
    · -- the only open line is the one that is paired
      have hmem : m ∈ openLines ls b := List.mem_filter.2 ⟨hm, by simpa using hassigned⟩
      rw [h.opened, List.mem_singleton] at hmem
      simp [hmem, isAssigned, assignment?_claim]
  · rw [free_claim, h.free]
    simp

/-- What the rounds add comes from the strategies that have turns. -/
theorem rounds_extended (hb : b.Coherent) (ls : List InvoiceLine) :
    Extended (fun c => c.assignment.strategy ∈ Strategy.proposing) b (rounds ls b) := by
  rw [rounds_eq]
  refine (runTurns_extended hb _).mono ?_
  rintro _ ⟨⟨s, m⟩, ht, _, -, -, rfl⟩
  exact (mem_turnsOf.1 ht).1

/-- **A new claim of elimination** comes from what the rounds have left. -/
theorem oneToOne_of_elimination (hb : b.Coherent) {c : BoardClaim} (hc : c ∈ (play ls b).claims)
    (hnew : c ∉ b.claims) (hstrategy : c.assignment.strategy = .elimination) :
    ∃ l e, OneToOne ls (rounds ls b) l e ∧ c.lineNum = l.lineNum := by
  have hrounds : c ∉ (rounds ls b).claims := by
    intro hmem
    rcases (rounds_extended hb ls).kind_or_mem hmem with hturn | hold
    · exact Strategy.mem_proposing_iff.1 hturn hstrategy
    · exact hnew hold
  rw [play_eq_eliminate] at hc
  rcases eliminate_cases (inOrder ls) (rounds ls b) with ⟨heq, -⟩ | ⟨l, e, hl, he, heq⟩
  · rw [heq] at hc
    exact absurd hc hrounds
  · rw [heq] at hc
    rcases List.mem_cons.1 hc with rfl | hold
    · exact ⟨l, e, oneToOne_inOrder.1 ⟨hl, he⟩, rfl⟩
    · exact absurd hold hrounds

end Board

/-! ## What outcomes leave over -/

/-- The outcome gives this line of the purchase order. -/
def LineOutcome.takes (o : LineOutcome) (p : ℤ) : Bool :=
  match o with
  | assigned a => a.poLine == p
  | unmatched | unplanned => false

/-- The lines of a purchase order that outcomes give to no invoice line. -/
def PurchaseOrder.unclaimedLines (po : PurchaseOrder) (os : List LineOutcome) :
    List PurchaseOrderLine :=
  po.lines.filter fun q => !os.any fun o => o.takes q.lineNum

namespace Snapshot

variable {s : Snapshot} {prior : List MatchResult} {os : List LineOutcome} {po : PurchaseOrder}
  {b seeded : Board} {i : ℕ} {l : InvoiceLine}

/-- The invoice lines that outcomes leave unmatched. -/
def unmatchedLines (s : Snapshot) (os : List LineOutcome) : List InvoiceLine :=
  ((s.lines.zip os).filter fun x => x.2 = .unmatched).map Prod.fst

/-- The line in this place was not given anything by the prior, and is assigned by elimination. -/
def EliminatedAt (s : Snapshot) (prior : List MatchResult) (os : List LineOutcome) (i : ℕ) :
    Prop :=
  ∃ l a, s.lines[i]? = some l ∧ MatchResult.seeds prior l.lineNum = false ∧
    os[i]? = some (.assigned a) ∧ a.strategy = .elimination

theorem outcome_eq_unmatched_iff :
    b.outcome l = .unmatched ↔ b.isAssigned l.lineNum = false := by
  unfold Board.outcome Board.isAssigned
  cases b.assignment? l.lineNum <;> simp

namespace OutcomesOf

theorem unmatchedLines_eq (h : s.OutcomesOf po b os) :
    s.unmatchedLines os = Board.openLines s.lines b := by
  rw [h.outcomes, unmatchedLines, ← List.map_prod_left_eq_zip, List.filter_map, List.map_map]
  simp [Board.openLines, outcome_eq_unmatched_iff, Function.comp_def]

/-- Outcomes give what is claimed on the board behind them. -/
theorem any_takes (h : s.OutcomesOf po b os) (p : ℤ) :
    (os.any fun o => o.takes p) = b.isClaimed p := by
  rw [Bool.eq_iff_iff, Board.isClaimed_iff, List.any_eq_true, h.outcomes]
  constructor
  · rintro ⟨o, ho, htakes⟩
    obtain ⟨l, -, rfl⟩ := List.mem_map.1 ho
    cases ha : b.assignment? l.lineNum with
    | none => simp [Board.outcome, ha, LineOutcome.takes] at htakes
    | some a =>
      refine ⟨⟨l.lineNum, a⟩, h.coherent.assignment?_eq_some_iff.1 ha, ?_⟩
      simpa [Board.outcome, ha, LineOutcome.takes] using htakes
  · rintro ⟨⟨n, a⟩, hc, rfl⟩
    obtain ⟨l, hl, rfl⟩ := h.onInvoice _ hc
    have ha := h.coherent.assignment?_eq_some_iff.2 hc
    exact ⟨_, List.mem_map_of_mem hl, by simp [Board.outcome, ha, LineOutcome.takes]⟩

/-- As many lines of the order are left unclaimed as are free on the board. -/
theorem length_unclaimedLines (h : s.OutcomesOf po b os) :
    (po.unclaimedLines os).length = b.free.length := by
  unfold PurchaseOrder.unclaimedLines Board.free
  simp only [h.any_takes, h.entries]
  have hperm := (sortBy_perm (fun x y : BoardEntry => intLe x.line.lineNum y.line.lineNum)
    (po.lines.map fun q => ⟨q, TokenSet.ofText q.description⟩)).filter
      fun e => !b.isClaimed e.line.lineNum
  rw [Board.ofOrder, hperm.length_eq, List.filter_map, List.length_map]
  rfl

/-- Nothing is left to eliminate. -/
theorem not_oneToOne (h : s.OutcomesOf po b os) :
    ¬((s.unmatchedLines os).length = 1 ∧ (po.unclaimedLines os).length = 1) := by
  rw [h.unmatchedLines_eq, h.length_unclaimedLines, List.length_eq_one_iff, List.length_eq_one_iff]
  rintro ⟨⟨l, hl⟩, e, he⟩
  have hone := Board.oneToOne_inOrder.2 (Board.OneToOne.mk hl he)
  exact h.settled.elimination ⟨l, e, hone.opened, hone.free⟩

theorem assigned_of_openLines (h : s.OutcomesOf po b os) (hopen : Board.openLines s.lines b = []) :
    ∀ o ∈ os, ∃ a, o = .assigned a := by
  intro o ho
  rw [h.outcomes] at ho
  obtain ⟨l, hl, rfl⟩ := List.mem_map.1 ho
  have hassigned : b.isAssigned l.lineNum = true := by
    simpa using List.filter_eq_nil_iff.1 hopen l hl
  obtain ⟨a, ha⟩ := Option.isSome_iff_exists.1 hassigned
  exact ⟨a, outcome_eq_assigned_iff.2 ha⟩

theorem claimed_of_free (h : s.OutcomesOf po b os) (hfree : b.free = []) :
    ∀ q ∈ po.lines, ∃ a, .assigned a ∈ os ∧ a.poLine = q.lineNum := by
  have hnone : po.unclaimedLines os = [] := by
    rw [← List.length_eq_zero_iff, h.length_unclaimedLines, hfree, List.length_nil]
  intro q hq
  have htaken : (os.any fun o => o.takes q.lineNum) = true := by
    simpa using List.filter_eq_nil_iff.1 hnone q hq
  obtain ⟨o, ho, htakes⟩ := List.any_eq_true.1 htaken
  cases o with
  | assigned a => exact ⟨a, ho, by simpa [LineOutcome.takes] using htakes⟩
  | unmatched => cases htakes
  | unplanned => cases htakes

end OutcomesOf

/-! ## Eliminated lines -/

section Seeded

variable (hcheck : MatchResult.checkPrior s [] prior = .ok ())
  (hseed : (Board.ofOrder po s.receipts).seed po.poNumber prior = .ok seeded)

include hcheck hseed

/-- A line that is eliminated is what the rounds have left. -/
theorem EliminatedAt.oneToOne (hv : s.Valid)
    (h : s.EliminatedAt prior (s.lines.map (seeded.play s.lines).outcome) i) :
    ∃ l e, s.lines[i]? = some l ∧ Board.OneToOne s.lines (seeded.rounds s.lines) l e := by
  obtain ⟨l, a, hl, hnew, ha, hstrategy⟩ := h
  have hcoh := Board.seed_coherent hcheck hseed
  have hclaim : ⟨l.lineNum, a⟩ ∈ (seeded.play s.lines).claims := by
    rw [List.getElem?_map, hl, Option.map_some, Option.some.injEq, outcome_eq_assigned_iff] at ha
    exact (Board.play_coherent hcoh s.lines).assignment?_eq_some_iff.1 ha
  have hold : ⟨l.lineNum, a⟩ ∉ seeded.claims := by
    intro hmem
    have hassigned := Board.isAssigned_iff.2 ⟨_, hmem, rfl⟩
    rw [Board.isAssigned_seed hcheck hseed, hnew] at hassigned
    cases hassigned
  obtain ⟨m, e, hone, hnum⟩ := Board.oneToOne_of_elimination hcoh hclaim hold hstrategy
  obtain rfl := hv.eq_of_lineNum_eq (List.mem_of_getElem? hl) hone.mem.1 hnum
  exact ⟨l, e, hl, hone⟩

/-- What the rounds have left is eliminated. -/
theorem eliminatedAt_of_oneToOne {e : BoardEntry} (hl : s.lines[i]? = some l)
    (hone : Board.OneToOne s.lines (seeded.rounds s.lines) l e) :
    s.EliminatedAt prior (s.lines.map (seeded.play s.lines).outcome) i ∧
      (s.lines.map (seeded.play s.lines).outcome)[i]? =
        some (.assigned ⟨e.line.lineNum, .elimination, 40⟩) := by
  have houtcome : (s.lines.map (seeded.play s.lines).outcome)[i]? =
      some (.assigned ⟨e.line.lineNum, .elimination, 40⟩) := by
    rw [List.getElem?_map, hl, Option.map_some, Option.some.injEq, outcome_eq_assigned_iff,
      Board.play_eq_eliminate, (Board.oneToOne_inOrder.2 hone).eliminate_eq,
      Board.assignment?_claim, if_pos rfl]
    rfl
  refine ⟨⟨l, _, hl, ?_, houtcome, rfl⟩, houtcome⟩
  -- an open line has not been seeded
  rw [← Board.isAssigned_seed hcheck hseed, ← Bool.not_eq_true]
  intro hassigned
  have hext := Board.rounds_extended (Board.seed_coherent hcheck hseed) s.lines
  have hopen := hone.mem.2
  rw [hext.isAssigned hassigned] at hopen
  cases hopen

/-- No two lines are eliminated. -/
theorem EliminatedAt.unique (hv : s.Valid) {j : ℕ}
    (hi : s.EliminatedAt prior (s.lines.map (seeded.play s.lines).outcome) i)
    (hj : s.EliminatedAt prior (s.lines.map (seeded.play s.lines).outcome) j) : i = j := by
  obtain ⟨l, e, hl, hone⟩ := hi.oneToOne hcheck hseed hv
  obtain ⟨m, e', hm, hone'⟩ := hj.oneToOne hcheck hseed hv
  have hlm : l = m := List.singleton_inj.1 (hone.opened.symm.trans hone'.opened)
  have hi := (List.getElem?_eq_some_iff.1 hl).1
  rw [← List.getElem?_inj hi (hv.lineNums_nodup.of_map _), hl, hm, hlm]

end Seeded

/-- **Elimination happens exactly on a one-to-one remainder.**  Outcomes never leave one line
unmatched and one line of the order unclaimed.  At most one line that the prior has not seeded is
assigned by elimination, and then it and its line of the order are all that the strategies before
have left: every line is assigned, every line of the order is claimed, and whatever else the prior
has not seeded is assigned by one of these strategies.  Where they leave one line of each, the two
are paired, with a raw confidence of 40. -/
theorem matchWithPrior_elimination (hvalid : s.validate = .ok ()) {number : String}
    (hn : s.header.poNumber = some number) (h : s.matchWithPrior prior = .ok os) :
    ∃ po seeded, s.purchaseOrder = some po ∧
      (Board.ofOrder po s.receipts).seed po.poNumber prior = .ok seeded ∧
      ¬((s.unmatchedLines os).length = 1 ∧ (po.unclaimedLines os).length = 1) ∧
      (∀ i j, s.EliminatedAt prior os i → s.EliminatedAt prior os j → i = j) ∧
      (∀ i, s.EliminatedAt prior os i →
        (∃ l e, s.lines[i]? = some l ∧ Board.OneToOne s.lines (seeded.rounds s.lines) l e) ∧
        (∀ o ∈ os, ∃ a, o = .assigned a) ∧
        (∀ q ∈ po.lines, ∃ a, .assigned a ∈ os ∧ a.poLine = q.lineNum) ∧
        ∀ j l a, j ≠ i → s.lines[j]? = some l → MatchResult.seeds prior l.lineNum = false →
          os[j]? = some (.assigned a) → a.strategy ∈ Strategy.proposing) ∧
      ∀ i l e, s.lines[i]? = some l → Board.OneToOne s.lines (seeded.rounds s.lines) l e →
        s.EliminatedAt prior os i ∧
          os[i]? = some (.assigned ⟨e.line.lineNum, .elimination, 40⟩) := by
  have hv := error?_eq_none_iff.1 (validate_eq_ok_iff.1 hvalid)
  obtain ⟨hcheck, ⟨hnone, -⟩ | ⟨_, po, seeded, -, hp, hseed, rfl⟩⟩ := matchWithPrior_eq_ok_iff.1 h
  · rw [hn] at hnone
    cases hnone
  obtain ⟨rfl, hpo⟩ := hv.supplied hn hp
  have hos := outcomesOf_play hv hcheck hn hp hpo hseed
  refine ⟨po, seeded, hp, hseed, hos.not_oneToOne,
    fun i j hi hj => hi.unique hcheck hseed hv hj, ?_,
    fun i l e => eliminatedAt_of_oneToOne hcheck hseed⟩
  intro i hi
  obtain ⟨l, e, hl, hone⟩ := hi.oneToOne hcheck hseed hv
  obtain ⟨hopen, hfree⟩ := (Board.oneToOne_inOrder.2 hone).eliminate_completes
  rw [← Board.play_eq_eliminate] at hopen hfree
  have hall : Board.openLines s.lines (seeded.play s.lines) = [] := by
    have hperm := Board.openLines_inOrder s.lines (seeded.play s.lines)
    rw [hopen] at hperm
    exact hperm.symm.eq_nil
  refine ⟨⟨l, e, hl, hone⟩, hos.assigned_of_openLines hall, hos.claimed_of_free hfree, ?_⟩
  intro j m a hne hm hnew ha
  refine Strategy.mem_proposing_iff.2 fun helimination => hne ?_
  exact EliminatedAt.unique hcheck hseed hv ⟨m, a, hm, hnew, ha, helimination⟩ hi

/-- A result that gives the sundries of the office invoice the line that they name. -/
def namedSundriesResult : MatchResult := { sundriesResult with poLine := some ⟨"P-2", 20⟩ }

set_option maxRecDepth 4000 in
/-- With the sundries seeded, the white paper and the copper wire are all that is left. -/
theorem office_elimination :
    ∃ os, office.matchWithPrior [namedSundriesResult] = .ok os ∧
      office.EliminatedAt [namedSundriesResult] os 0 ∧
      (∀ i, office.EliminatedAt [namedSundriesResult] os i → i = 0) ∧
      ∀ q ∈ officeOrder.lines, ∃ a, .assigned a ∈ os ∧ a.poLine = q.lineNum := by
  have hvalid : office.validate = .ok () := validate_eq_ok_iff.2 (by decide +kernel)
  obtain ⟨os, hos, hpaper⟩ : ∃ os, office.matchWithPrior [namedSundriesResult] = .ok os ∧
      os[0]? = some (.assigned ⟨10, .elimination, 40⟩) :=
    exists_ok_of_map_eq (f := fun os => os[0]?) (by decide +kernel)
  have heliminated : office.EliminatedAt [namedSundriesResult] os 0 :=
    ⟨officeLine 2 "white paper" none, _, rfl, by decide, hpaper, rfl⟩
  obtain ⟨po, _, hp, -, -, hunique, hleft, -⟩ := matchWithPrior_elimination hvalid rfl hos
  obtain rfl : officeOrder = po := Option.some.inj hp
  obtain ⟨-, -, hclaimed, -⟩ := hleft 0 heliminated
  exact ⟨os, hos, heliminated, fun i hi => hunique i 0 hi heliminated, hclaimed⟩

end Snapshot
end Payables
