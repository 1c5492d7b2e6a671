import Payables.Proofs.Matching.Play

/-!
# Priority on a played board

The order of the turns decides who gets what, and nothing else does.

* `claimed_of_accepts` — a line that a strategy could have used, but did not get, was claimed in an
  earlier turn or was claimed from the start.
* `Settled` — nothing is left to do on a board; `play_settled` reaches such a board, and
  `play_of_settled` leaves it as it is, so that playing twice is playing once (`play_play`).
-/

namespace Payables.Board

variable {b b' : Board} {s : Strategy} {l : InvoiceLine} {ls : List InvoiceLine} {e : BoardEntry}

/-! ## Earlier turns win -/

/-- What a turn finds is what the turns before it have left. -/
theorem runTurns_split (hb : b.Coherent) (ts : List (Strategy × InvoiceLine)) (s : Strategy)
    (l : InvoiceLine) :
    (runTurns ts b).isAssigned l.lineNum = true ∨
      (∃ c ∈ (turn s (runTurns ts b) l).claims,
        c.lineNum = l.lineNum ∧ c.assignment.strategy = s) ∨
      ∀ e ∈ b.entries, s.Accepts b.receipts l e.line →
        (runTurns ts b).isClaimed e.line.lineNum = true := by
  have hext := runTurns_extended hb ts
  rcases turn_cases (runTurns_coherent hb ts) s l with ⟨-, hassigned | hnone⟩ | ⟨e, -, -, -, h⟩
  · exact Or.inl hassigned
  · refine Or.inr (Or.inr ?_)
    intro e he haccepts
    by_contra hclaimed
    have hfree : e ∈ (runTurns ts b).free := by
      rw [mem_free_iff, hext.entries]
      exact ⟨he, by simpa using hclaimed⟩
    refine hnone e hfree ?_
    rwa [hext.receipts]
  · refine Or.inr (Or.inl ?_)
    rw [h]
    exact ⟨_, List.mem_cons_self, rfl, rfl⟩

/-- What is claimed by the end of a turn is claimed on the played board. -/
theorem mem_play_of_turn (hb : b.Coherent) {before after : List (Strategy × InvoiceLine)}
    (hsplit : turnsOf (inOrder ls) = before ++ (s, l) :: after) {c : BoardClaim}
    (hc : c ∈ (turn s (runTurns before b) l).claims) : c ∈ (play ls b).claims := by
  have hcoh := turn_coherent (runTurns_coherent hb before) s l
  rw [play_eq, hsplit, runTurns_append, runTurns_cons]
  apply (eliminate_extended _ _).mem_claims
  exact (runTurns_extended hcoh after).mem_claims hc

/-- The turns before a turn precede it. -/
theorem precedes_of_mem_before (hnodup : (ls.map InvoiceLine.lineNum).Nodup)
    {before after : List (Strategy × InvoiceLine)}
    (hsplit : turnsOf (inOrder ls) = before ++ (s, l) :: after) {t : Strategy × InvoiceLine}
    (ht : t ∈ before) : Precedes t (s, l) := by
  have hordered := turnsOf_pairwise hnodup
  rw [hsplit] at hordered
  exact (List.pairwise_append.1 hordered).2.2 t ht _ List.mem_cons_self

/-- **Earlier turns win.**  Where an invoice line is given nothing by a strategy or an earlier one,
every line that is acceptable to the strategy is claimed, and by an earlier turn unless it was so
from the start. -/
theorem claimed_of_accepts (hb : b.Coherent) (hnodup : (ls.map InvoiceLine.lineNum).Nodup)
    (hl : l ∈ ls) (hs : s ∈ Strategy.proposing) (hseed : b.isAssigned l.lineNum = false)
    (hlater : ∀ c ∈ (play ls b).claims, c.lineNum = l.lineNum →
      s.position < c.assignment.strategy.position)
    (he : e ∈ b.entries) (haccepts : s.Accepts b.receipts l e.line) :
    ∃ c ∈ (play ls b).claims, c.poLine = e.line.lineNum ∧
      (c ∈ b.claims ∨ ∃ t ∈ turnsOf (inOrder ls), FromTurn b t c ∧ Precedes t (s, l)) := by
  -- cut the turns at the one of the strategy at the line
  have hmem : (s, l) ∈ turnsOf (inOrder ls) := mem_turnsOf.2 ⟨hs, mem_inOrder.2 hl⟩
  obtain ⟨before, after, hsplit⟩ := List.append_of_mem hmem
  have hext := runTurns_extended hb before
  have hturn : ∀ c ∈ (turn s (runTurns before b) l).claims, c ∈ (play ls b).claims := by
    intro c hc
    exact mem_play_of_turn hb hsplit hc
  have hrun : ∀ c ∈ (runTurns before b).claims, c ∈ (play ls b).claims := by
    intro c hc
    apply hturn
    exact (turn_extended (runTurns_coherent hb before) s l).mem_claims hc
  rcases runTurns_split hb before s l with hassigned | ⟨c, hc, hcl, hcs⟩ | hclaimed
  · obtain ⟨c, hc, hcl⟩ := isAssigned_iff.1 hassigned
    have hlt := hlater c (hrun c hc) hcl
    rcases hext.kind_or_mem hc with ⟨t, ht, _, -, -, rfl⟩ | hmem
    · -- an earlier turn at the same line is one of an earlier strategy
      rcases precedes_of_mem_before hnodup hsplit ht with hpos | ⟨heq, -⟩
      · exact absurd hlt (not_lt.2 hpos.le)
      · exact absurd hlt (not_lt.2 (congrArg Strategy.position heq).le)
    · exact absurd hcl (isAssigned_eq_false_iff.1 hseed c hmem)
  · have hlt := hlater c (hturn c hc) hcl
    rw [hcs] at hlt
    exact absurd hlt (lt_irrefl _)
  · obtain ⟨c, hc, hcp⟩ := isClaimed_iff.1 (hclaimed e he haccepts)
    refine ⟨c, hrun c hc, hcp, ?_⟩
    rcases hext.kind_or_mem hc with ⟨t, ht, hfrom⟩ | hmem
    · refine Or.inr ⟨t, ?_, hfrom, precedes_of_mem_before hnodup hsplit ht⟩
      rw [hsplit]
      exact List.mem_append_left _ ht
    · exact Or.inl hmem

/-! ## Settled boards -/

/-- Nothing is left to do: no open line finds an acceptable free line, and there is not exactly one
open and one free line. -/
structure Settled (ls : List InvoiceLine) (b : Board) : Prop where
  turns : ∀ l ∈ ls, b.isAssigned l.lineNum = false → ∀ s ∈ Strategy.proposing, ∀ e ∈ b.free,
    ¬s.Accepts b.receipts l e.line
  elimination : ¬∃ l e, openLines (inOrder ls) b = [l] ∧ b.free = [e]

/-- An elimination leaves nothing to eliminate. -/
theorem eliminate_exhausts (ls : List InvoiceLine) (b : Board) :
    ¬∃ l e, openLines ls (eliminate ls b) = [l] ∧ (eliminate ls b).free = [e] := by
  rcases eliminate_cases ls b with ⟨h, hnone⟩ | ⟨l, e, -, he, h⟩
  · rwa [h]
  · rintro ⟨-, e', -, he'⟩
    rw [h, free_claim, he] at he'
    simp at he'

/-- **Playing leaves nothing to do.** -/
theorem play_settled (hb : b.Coherent) (hnodup : (ls.map InvoiceLine.lineNum).Nodup) :
    (play ls b).Settled ls where
  turns := by
    intro l hl hopen s hs e he haccepts
    have hext := play_extended hb ls
    have hseed : b.isAssigned l.lineNum = false := by
      by_contra hassigned
      rw [hext.isAssigned (by simpa using hassigned)] at hopen
      cases hopen
    obtain ⟨hentry, hfree⟩ := mem_free_iff.1 he
    rw [hext.entries] at hentry
    rw [hext.receipts] at haccepts
    obtain ⟨c, hc, hcp, -⟩ := claimed_of_accepts hb hnodup hl hs hseed
      (fun c hc hcl => absurd hcl (isAssigned_eq_false_iff.1 hopen c hc)) hentry haccepts
    exact isClaimed_eq_false_iff.1 hfree c hc hcp
  elimination := by
    rw [play_eq]
    exact eliminate_exhausts _ _

theorem runTurns_of_settled (hb : b.Coherent) (h : b.Settled ls)
    {ts : List (Strategy × InvoiceLine)} (hts : ∀ t ∈ ts, t.1 ∈ Strategy.proposing ∧ t.2 ∈ ls) :
    runTurns ts b = b := by
  induction ts with
  | nil => rfl
  | cons t ts ih =>
    obtain ⟨⟨hs, hl⟩, hrest⟩ := List.forall_mem_cons.1 hts
    rw [runTurns_cons]
    rcases turn_cases hb t.1 t.2 with ⟨heq, -⟩ | ⟨e, he, hopen, haccepts, -⟩
    · rw [heq]
      exact ih hrest
    · exact absurd haccepts (h.turns t.2 hl hopen t.1 hs e he)

/-- A settled board stays as it is. -/
theorem play_of_settled (hb : b.Coherent) (h : b.Settled ls) : play ls b = b := by
  rw [play_eq, runTurns_of_settled hb h]
  · rcases eliminate_cases (inOrder ls) b with ⟨heq, -⟩ | ⟨l, e, hl, he, -⟩
    · exact heq
    · exact absurd ⟨l, e, hl, he⟩ h.elimination
  · rintro ⟨s, l⟩ ht
    obtain ⟨hs, hl⟩ := mem_turnsOf.1 ht
    exact ⟨hs, mem_inOrder.1 hl⟩

/-- **Playing twice is playing once.** -/
theorem play_play (hb : b.Coherent) (hnodup : (ls.map InvoiceLine.lineNum).Nodup) :
    play ls (play ls b) = play ls b :=
  play_of_settled (play_coherent hb ls) (play_settled hb hnodup)

/-- The order of the claims does not matter for what is left to do. -/
theorem Settled.of_sameClaims (h : b.Settled ls) (hsame : SameClaims b b') : b'.Settled ls where
  turns := by
    intro l hl hopen s hs e he
    rw [← hsame.isAssigned_eq] at hopen
    rw [← hsame.free_eq] at he
    rw [← hsame.receipts]
    exact h.turns l hl hopen s hs e he
  elimination := by
    unfold openLines at *
    simp only [← hsame.isAssigned_eq, ← hsame.free_eq]
    exact h.elimination

end Payables.Board
