import Payables.Proofs.Document.Validation
import Payables.Proofs.Matching.Play
import Payables.Proofs.Matching.Prior

/-!
# Seeding is deleting

What a prior claims is out of play: its invoice lines have no turn, and its lines of the purchase
order are free for no one.  So the other lines are matched as on a snapshot from which both have
been deleted.

* `Reduced` — a board beside one from which what is claimed for some invoice lines has been taken
  away; turns and elimination keep the two together (`runTurns_reduced`, `eliminate_reduced`,
  `play_reduced`).
* `isAssigned_seed`, `isClaimed_seed` — what is out of play on a board that takes up a prior.
* `seed_reduced` — such a board, beside the fresh board of the purchase order without the lines that
  the prior carries.
-/

namespace Payables

namespace Board

variable {seeded : ℤ → Bool} {b b' : Board} {ls : List InvoiceLine} {l : InvoiceLine}

/-! ## Two boards side by side -/

/-- A board beside one that does without what is claimed for the `seeded` invoice lines: the free
lines are the same, and so is what the other invoice lines have been given. -/
structure Reduced (seeded : ℤ → Bool) (b b' : Board) : Prop where
  free : b.free = b'.free
  receipts : b.receipts = b'.receipts
  assigned : ∀ n, seeded n = true → b.isAssigned n = true
  others : ∀ n, seeded n = false → b.assignment? n = b'.assignment? n

namespace Reduced

theorem isAssigned_eq (h : Reduced seeded b b') {n : ℤ} (hn : seeded n = false) :
    b.isAssigned n = b'.isAssigned n := by
  unfold isAssigned
  rw [h.others n hn]

/-- A claim for a line that is not seeded is made on both. -/
theorem claim (h : Reduced seeded b b') (n : ℤ) (a : Assignment) :
    Reduced seeded (b.claim n a) (b'.claim n a) where
  free := by rw [free_claim, free_claim, h.free]
  receipts := h.receipts
  assigned := by
    intro m hm
    unfold isAssigned
    rw [assignment?_claim]
    split
    · rfl
    · exact h.assigned m hm
  others := by
    intro m hm
    rw [assignment?_claim, assignment?_claim, h.others m hm]

/-- The open lines are the same. -/
theorem openLines_eq (h : Reduced seeded b b') (ls : List InvoiceLine) :
    openLines ls b = openLines (ls.filter fun l => !seeded l.lineNum) b' := by
  unfold openLines
  rw [List.filter_filter]
  refine List.filter_congr fun l _ => ?_
  cases hseeded : seeded l.lineNum with
  | true => simp [h.assigned _ hseeded]
  | false => simp [h.isAssigned_eq hseeded]

end Reduced

/-- A turn at any other line does the same on both. -/
theorem turn_reduced (h : Reduced seeded b b') (s : Strategy) (hl : seeded l.lineNum = false) :
    Reduced seeded (turn s b l) (turn s b' l) := by
  unfold turn
  rw [h.isAssigned_eq hl, propose_congr h.free fun _ _ => h.receipts ▸ .refl _]
  split
  · exact h
  · split
    · exact h
    · split
      · exact h
      · exact h.claim _ _

theorem runTurns_reduced (h : Reduced seeded b b') (ts : List (Strategy × InvoiceLine)) :
    Reduced seeded (runTurns ts b) (runTurns (ts.filter fun t => !seeded t.2.lineNum) b') := by
  induction ts generalizing b b' with
  | nil => exact h
  | cons t ts ih =>
    rw [runTurns_cons]
    cases hseeded : seeded t.2.lineNum with
    | true =>
      rw [turn_of_assigned t.1 (h.assigned _ hseeded), List.filter_cons_of_neg (by simp [hseeded])]
      exact ih h
    | false =>
      rw [List.filter_cons_of_pos (by simp [hseeded]), runTurns_cons]
      exact ih (turn_reduced h t.1 hseeded)

theorem eliminate_reduced (h : Reduced seeded b b') (ls : List InvoiceLine) :
    Reduced seeded (eliminate ls b) (eliminate (ls.filter fun l => !seeded l.lineNum) b') := by
  have hopen := h.openLines_eq ls
  rcases eliminate_cases ls b with ⟨heq, hnone⟩ | ⟨l, e, hl, he, heq⟩
  · rcases eliminate_cases (ls.filter fun l => !seeded l.lineNum) b' with
      ⟨heq', -⟩ | ⟨l', e', hl', he', -⟩
    · rw [heq, heq']
      exact h
    · exact absurd ⟨l', e', hopen.trans hl', h.free.trans he'⟩ hnone
  · rcases eliminate_cases (ls.filter fun l => !seeded l.lineNum) b' with
      ⟨-, hnone'⟩ | ⟨l', e', hl', he', heq'⟩
    · exact absurd ⟨l, e, hopen.symm.trans hl, h.free.symm.trans he⟩ hnone'
    · obtain rfl : l = l' := by
        rw [hopen, hl'] at hl
        exact (List.singleton_inj.1 hl).symm
      obtain rfl : e = e' := by
        rw [h.free, he'] at he
        exact (List.singleton_inj.1 he).symm
      rw [heq, heq']
      exact h.claim _ _

/-! ## Turns without the seeded lines -/

theorem inOrder_filter (ls : List InvoiceLine) (keep : InvoiceLine → Bool) :
    (inOrder ls).filter keep = inOrder (ls.filter keep) :=
  filter_sortBy InvoiceLine.lineNum ls keep

theorem turnsOf_filter (ls : List InvoiceLine) (keep : InvoiceLine → Bool) :
    (turnsOf ls).filter (fun t => keep t.2) = turnsOf (ls.filter keep) := by
  unfold turnsOf
  rw [List.filter_flatMap]
  refine List.flatMap_congr fun s _ => ?_
  rw [List.filter_map]
  rfl

/-- **Playing keeps the two boards together**, where the one that does without the seeded lines is
played without them. -/
theorem play_reduced (ls : List InvoiceLine) (h : Reduced seeded b b') :
    Reduced seeded (play ls b) (play (ls.filter fun l => !seeded l.lineNum) b') := by
  have hturns := turnsOf_filter (inOrder ls) fun l => !seeded l.lineNum
  have hlines := inOrder_filter ls fun l => !seeded l.lineNum
  rw [play_eq, play_eq, ← hlines, ← hturns]
  exact eliminate_reduced (runTurns_reduced h _) _

end Board

/-! ## The lines of a prior -/

namespace MatchResult

variable {r : MatchResult} {prior : List MatchResult} {s : Snapshot}

/-- A prior result of this invoice line carries a line of the purchase order. -/
def seeds (prior : List MatchResult) (n : ℤ) : Bool :=
  prior.any fun r => r.lineNum == n && r.poLine.isSome

/-- A prior result carries this line of the purchase order. -/
def takes (prior : List MatchResult) (p : ℤ) : Bool :=
  prior.any fun r => r.poLine.any fun ref => ref.lineNum == p

theorem claim?_eq_some_iff {c : BoardClaim} :
    r.claim? = some c ↔ ∃ ref strategy, r.poLine = some ref ∧ r.strategy = some strategy ∧
      c = ⟨r.lineNum, ⟨ref.lineNum, strategy, r.rawConfidence⟩⟩ := by
  unfold claim?
  cases r.poLine <;> cases r.strategy <;> simp [eq_comm]

/-- A result that may be carried over claims what it carries. -/
theorem PriorOf.exists_claim (h : r.PriorOf s) {ref : PoLineRef} (href : r.poLine = some ref) :
    ∃ strategy, r.strategy = some strategy ∧
      r.claim? = some ⟨r.lineNum, ⟨ref.lineNum, strategy, r.rawConfidence⟩⟩ := by
  have hsome : r.strategy.isSome = true := by
    rw [← h.wholeClaim, href]
    rfl
  obtain ⟨strategy, hstrategy⟩ := Option.isSome_iff_exists.1 hsome
  exact ⟨strategy, hstrategy, claim?_eq_some_iff.2 ⟨ref, strategy, href, hstrategy, rfl⟩⟩

/-- The lines that are seeded are those that the claims are for. -/
theorem seeds_iff (h : ∀ r ∈ prior, r.PriorOf s) {n : ℤ} :
    seeds prior n = true ↔ ∃ c ∈ prior.filterMap claim?, c.lineNum = n := by
  simp only [seeds, List.any_eq_true, Bool.and_eq_true, beq_iff_eq, List.mem_filterMap]
  constructor
  · rintro ⟨r, hr, rfl, hsome⟩
    obtain ⟨ref, href⟩ := Option.isSome_iff_exists.1 hsome
    obtain ⟨strategy, -, hclaim⟩ := (h r hr).exists_claim href
    exact ⟨_, ⟨r, hr, hclaim⟩, rfl⟩
  · rintro ⟨c, ⟨r, hr, hclaim⟩, rfl⟩
    obtain ⟨ref, strategy, href, -, rfl⟩ := claim?_eq_some_iff.1 hclaim
    exact ⟨r, hr, rfl, by rw [href]; rfl⟩

/-- The lines that are taken are those that are claimed. -/
theorem takes_iff (h : ∀ r ∈ prior, r.PriorOf s) {p : ℤ} :
    takes prior p = true ↔ ∃ c ∈ prior.filterMap claim?, c.poLine = p := by
  simp only [takes, List.any_eq_true, Option.any_eq_true, beq_iff_eq, List.mem_filterMap]
  constructor
  · rintro ⟨r, hr, ref, href, rfl⟩
    obtain ⟨strategy, -, hclaim⟩ := (h r hr).exists_claim href
    exact ⟨_, ⟨r, hr, hclaim⟩, rfl⟩
  · rintro ⟨c, ⟨r, hr, hclaim⟩, rfl⟩
    obtain ⟨ref, strategy, href, -, rfl⟩ := claim?_eq_some_iff.1 hclaim
    exact ⟨r, hr, ref, href, rfl⟩

end MatchResult

/-- The purchase order without the lines that a prior carries. -/
def PurchaseOrder.without (po : PurchaseOrder) (prior : List MatchResult) : PurchaseOrder :=
  { po with lines := po.lines.filter fun q => !MatchResult.takes prior q.lineNum }

namespace Board

open MatchResult (seeds takes)

section Seed

variable {s : Snapshot} {po : PurchaseOrder} {prior : List MatchResult}
  (hcheck : MatchResult.checkPrior s [] prior = .ok ())
  (hseed : (ofOrder po s.receipts).seed po.poNumber prior = .ok b)

include hcheck hseed

/-- The lines that are seeded are those that the board has assigned. -/
theorem isAssigned_seed (n : ℤ) : b.isAssigned n = seeds prior n := by
  obtain ⟨hprior, -⟩ := MatchResult.checkPrior_eq_ok_iff.1 hcheck
  rw [Bool.eq_iff_iff, isAssigned_iff, MatchResult.seeds_iff hprior]
  simp only [mem_claims_seed hseed]

theorem isClaimed_seed (p : ℤ) : b.isClaimed p = takes prior p := by
  obtain ⟨hprior, -⟩ := MatchResult.checkPrior_eq_ok_iff.1 hcheck
  rw [Bool.eq_iff_iff, isClaimed_iff, MatchResult.takes_iff hprior]
  simp only [mem_claims_seed hseed]

end Seed

/-- A board that takes up a prior, beside the fresh board of the order without its lines. -/
theorem seed_reduced {s : Snapshot} {po : PurchaseOrder} {prior : List MatchResult} {b : Board}
    (hcheck : MatchResult.checkPrior s [] prior = .ok ())
    (hseed : (ofOrder po s.receipts).seed po.poNumber prior = .ok b) :
    Reduced (seeds prior) b (ofOrder (po.without prior) s.receipts) := by
  have hassigned := isAssigned_seed hcheck hseed
  have hclaimed := isClaimed_seed hcheck hseed
  obtain ⟨-, -, hb⟩ := seed_eq_ok_iff.1 hseed
  have hentries : b.entries = (ofOrder po s.receipts).entries := by rw [hb]; rfl
  refine ⟨?_, by rw [hb]; rfl, ?_, ?_⟩
  · calc b.free
        = (ofOrder po s.receipts).entries.filter fun e => !takes prior e.line.lineNum := by
          unfold free
          rw [hentries]
          simp only [hclaimed]
      _ = (ofOrder (po.without prior) s.receipts).entries := by
          simp only [ofOrder, PurchaseOrder.without]
          rw [filter_sortBy fun e : BoardEntry => e.line.lineNum, List.filter_map]
          rfl
      _ = (ofOrder (po.without prior) s.receipts).free := by simp [free, isClaimed, ofOrder]
  · intro n hn
    rw [hassigned, hn]
  · intro n hn
    rw [← hassigned] at hn
    exact Option.not_isSome_iff_eq_none.1 (by simpa [isAssigned] using hn)

end Board

end Payables
