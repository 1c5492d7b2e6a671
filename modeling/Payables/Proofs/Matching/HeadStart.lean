import Payables.Proofs.Matching.Bisimulation
import Payables.Proofs.Matching.Priority
import Payables.Proofs.Matching.Winner

/-!
# A head start

Some of the claims that a board ends with may just as well be there from the start.  Whoever is to
make one of them later is assigned already and has no turn, and everyone else finds fewer free
lines, but none of those that they claim is missing.

* `HeadStart` — a board beside one on which some claims have been made early; turns keep the two
  together (`turn_headStart`, `runTurns_headStart`).
* `play_headStart` — once elimination has made the last claim, the two boards have the same claims.
-/

namespace Payables.Board

variable {early : List BoardClaim} {b b' final : Board} {ls : List InvoiceLine} {l : InvoiceLine}
  {n : ℤ} {a : Assignment}

/-! ## Two boards side by side -/

/-- A board beside one on which some claims have been made early. -/
structure HeadStart (early : List BoardClaim) (b b' : Board) : Prop where
  entries : b.entries = b'.entries
  receipts : b.receipts = b'.receipts
  claims : ∀ c, c ∈ b'.claims ↔ c ∈ b.claims ∨ c ∈ early

namespace HeadStart

theorem isAssigned (h : HeadStart early b b') (hn : b.isAssigned n = true) :
    b'.isAssigned n = true := by
  obtain ⟨c, hc, hcn⟩ := isAssigned_iff.1 hn
  exact isAssigned_iff.2 ⟨c, (h.claims c).2 (Or.inl hc), hcn⟩

theorem isClaimed_eq (h : HeadStart early b b') (p : ℤ) :
    b'.isClaimed p = ((early.any fun c => c.poLine == p) || b.isClaimed p) := by
  rw [Bool.eq_iff_iff, Bool.or_eq_true, isClaimed_iff, isClaimed_iff]
  simp only [h.claims, List.any_eq_true, beq_iff_eq]
  constructor
  · rintro ⟨c, hc | hc, hp⟩
    · exact Or.inr ⟨c, hc, hp⟩
    · exact Or.inl ⟨c, hc, hp⟩
  · rintro (⟨c, hc, hp⟩ | ⟨c, hc, hp⟩)
    · exact ⟨c, Or.inr hc, hp⟩
    · exact ⟨c, Or.inl hc, hp⟩

/-- What is claimed early is not free. -/
theorem narrowed (h : HeadStart early b b') :
    Narrowed (fun p => !early.any fun c => c.poLine == p) b b' where
  free := by
    unfold Board.free
    rw [List.filter_filter, h.entries]
    refine List.filter_congr fun e _ => ?_
    rw [h.isClaimed_eq, Bool.not_or]
  receipts := h.receipts.symm

/-- A claim made on both. -/
theorem claim (h : HeadStart early b b') (n : ℤ) (a : Assignment) :
    HeadStart early (b.claim n a) (b'.claim n a) where
  entries := h.entries
  receipts := h.receipts
  claims := by
    intro c
    show c ∈ ⟨n, a⟩ :: b'.claims ↔ c ∈ ⟨n, a⟩ :: b.claims ∨ c ∈ early
    rw [List.mem_cons, List.mem_cons, h.claims, or_assoc]

/-- A claim that the other board has made early. -/
theorem catchUp (h : HeadStart early b b') (hmem : ⟨n, a⟩ ∈ early) :
    HeadStart early (b.claim n a) b' where
  entries := h.entries
  receipts := h.receipts
  claims := by
    intro c
    show c ∈ b'.claims ↔ c ∈ ⟨n, a⟩ :: b.claims ∨ c ∈ early
    rw [List.mem_cons, h.claims]
    constructor
    · rintro (hc | hc)
      · exact Or.inl (Or.inr hc)
      · exact Or.inr hc
    · rintro ((rfl | hc) | hc)
      · exact Or.inr hmem
      · exact Or.inl hc
      · exact Or.inr hc

/-- The head start is over when the claims that were made early have all been made. -/
theorem sameClaims (h : HeadStart early b b') (hmade : ∀ c ∈ early, c ∈ b.claims) :
    SameClaims b b' where
  entries := h.entries
  receipts := h.receipts
  claims := by
    intro c
    rw [h.claims]
    exact (or_iff_left_of_imp (hmade c)).symm

/-- A line that is open here and assigned there has its final claim early. -/
theorem mem_early (h : HeadStart early b b') (hfinal : final.Coherent)
    (hearly : ∀ c ∈ early, c ∈ final.claims) (hmade : ⟨n, a⟩ ∈ final.claims)
    (hopen : b.isAssigned n = false) (hassigned : b'.isAssigned n = true) : ⟨n, a⟩ ∈ early := by
  obtain ⟨c, hc, hline⟩ := isAssigned_iff.1 hassigned
  rcases (h.claims c).1 hc with hold | hc
  · exact absurd hline (isAssigned_eq_false_iff.1 hopen c hold)
  · obtain rfl := List.inj_on_of_nodup_map hfinal.lines_nodup (hearly c hc) hmade hline
    exact hc

/-- What a line is given in the end is not claimed early while the line is open. -/
theorem not_early (h : HeadStart early b b') (hfinal : final.Coherent)
    (hearly : ∀ c ∈ early, c ∈ final.claims) (hmade : ⟨n, a⟩ ∈ final.claims)
    (hopen : b'.isAssigned n = false) : (!early.any fun c => c.poLine == a.poLine) = true := by
  rw [Bool.not_eq_true', List.any_eq_false]
  intro c hc hp
  obtain rfl :=
    List.inj_on_of_nodup_map hfinal.poLines_nodup (hearly c hc) hmade (by simpa using hp)
  exact isAssigned_eq_false_iff.1 hopen _ ((h.claims _).2 (Or.inr hc)) rfl

end HeadStart

/-! ## Turns -/

/-- **A turn keeps the two boards together**, as long as everything that is claimed is claimed on
one final board. -/
theorem turn_headStart (h : HeadStart early b b') (hb : b.Coherent) (hb' : b'.Coherent)
    (hfinal : final.Coherent) (hearly : ∀ c ∈ early, c ∈ final.claims) (s : Strategy)
    (hturn : ∀ c ∈ (turn s b l).claims, c ∈ final.claims)
    (hnum : ∀ e ∈ b.entries, l.Comparable e.line) :
    HeadStart early (turn s b l) (turn s b' l) := by
  cases hassigned : b.isAssigned l.lineNum with
  | true =>
    rw [turn_of_assigned s hassigned, turn_of_assigned s (h.isAssigned hassigned)]
    exact h
  | false =>
    rcases turn_of_open s hassigned with ⟨c, hc, hfloor, heq⟩ | ⟨hbelow, heq⟩
    · -- the claim of this turn is the only one of its two lines on the final board
      have hmade : ⟨l.lineNum, ⟨c.poLine, s, c.rawConfidence⟩⟩ ∈ final.claims := by
        apply hturn
        rw [heq]
        exact List.mem_cons_self
      rw [heq]
      cases hassigned' : b'.isAssigned l.lineNum with
      | true =>
        rw [turn_of_assigned s hassigned']
        exact h.catchUp (h.mem_early hfinal hearly hmade hassigned hassigned')
      | false =>
        have hpropose := h.narrowed.propose (fun e he => hnum e (mem_free_iff.1 he).1) hc hfloor
          (h.not_early hfinal hearly hmade hassigned')
        rcases turn_of_open s hassigned' with ⟨c', hc', -, heq'⟩ | ⟨hbelow', -⟩
        · obtain rfl : c = c' := Option.some.inj (hpropose.symm.trans hc')
          rw [heq']
          exact h.claim _ _
        · exact absurd (hbelow' c hpropose) (UInt8.not_lt.2 hfloor)
    · -- where nothing was acceptable, nothing is among fewer lines
      rw [heq]
      rcases turn_cases hb' s l with ⟨heq', -⟩ | ⟨e, he, -, haccepts, -⟩
      · rw [heq']
        exact h
      · rw [h.narrowed.free] at he
        rw [← h.receipts] at haccepts
        obtain ⟨c, hc, hfloor⟩ := exists_propose_of_accepts hb (List.mem_filter.1 he).1 haccepts
        exact absurd (hbelow c hc) (UInt8.not_lt.2 hfloor)

theorem runTurns_headStart {ts : List (Strategy × InvoiceLine)} (h : HeadStart early b b')
    (hb : b.Coherent) (hb' : b'.Coherent) (hfinal : final.Coherent)
    (hearly : ∀ c ∈ early, c ∈ final.claims)
    (hrun : ∀ c ∈ (runTurns ts b).claims, c ∈ final.claims)
    (hnum : ∀ t ∈ ts, ∀ e ∈ b.entries, t.2.Comparable e.line) :
    HeadStart early (runTurns ts b) (runTurns ts b') := by
  induction ts generalizing b b' with
  | nil => exact h
  | cons t ts ih =>
    obtain ⟨hhead, htail⟩ := List.forall_mem_cons.1 hnum
    have hcoherent := turn_coherent hb t.1 t.2
    rw [runTurns_cons] at hrun
    have hturn : ∀ c ∈ (turn t.1 b t.2).claims, c ∈ final.claims := by
      intro c hc
      exact hrun c ((runTurns_extended hcoherent ts).mem_claims hc)
    rw [runTurns_cons, runTurns_cons]
    refine ih (turn_headStart h hb hb' hfinal hearly t.1 hturn hhead) hcoherent
      (turn_coherent hb' t.1 t.2) hrun ?_
    rw [(turn_extended hb t.1 t.2).entries]
    exact htail

/-! ## Elimination -/

/-- Eliminating twice is eliminating once. -/
theorem eliminate_eliminate (ls : List InvoiceLine) (b : Board) :
    eliminate ls (eliminate ls b) = eliminate ls b := by
  rcases eliminate_cases ls (eliminate ls b) with ⟨heq, -⟩ | ⟨l, e, hl, he, -⟩
  · exact heq
  · exact absurd ⟨l, e, hl, he⟩ (eliminate_exhausts ls b)

/-- Elimination ends the head start. -/
theorem eliminate_headStart (h : HeadStart early b b')
    (hearly : ∀ c ∈ early, c ∈ (eliminate ls b).claims) :
    SameClaims (eliminate ls b) (eliminate ls b') := by
  rcases eliminate_cases ls b with ⟨heq, -⟩ | ⟨l, e, -, -, heq⟩
  · rw [heq] at hearly
    exact sameClaims_bisimulation.eliminate (h.sameClaims hearly) (List.forall₂_refl ls)
  · by_cases hlast :
        ⟨l.lineNum, ⟨e.line.lineNum, .elimination, Strategy.elimination.weight⟩⟩ ∈ early
    · -- elimination has been made early as well, so the other board is done
      have hsame : SameClaims (eliminate ls b) b' := by
        rw [heq]
        rw [heq] at hearly
        exact (h.catchUp hlast).sameClaims hearly
      have hagain := sameClaims_bisimulation.eliminate hsame (List.forall₂_refl ls)
      rwa [eliminate_eliminate] at hagain
    · refine sameClaims_bisimulation.eliminate (h.sameClaims ?_) (List.forall₂_refl ls)
      intro c hc
      have hmem := hearly c hc
      rw [heq] at hmem
      rcases List.mem_cons.1 hmem with rfl | hmem
      · exact absurd hc hlast
      · exact hmem

/-- **Claims may be made early.**  A board that starts with some of the claims that it would end
with ends with the same claims. -/
theorem play_headStart (h : HeadStart early b b') (hb : b.Coherent) (hb' : b'.Coherent)
    (hearly : ∀ c ∈ early, c ∈ (play ls b).claims)
    (hnum : ∀ l ∈ ls, ∀ e ∈ b.entries, l.Comparable e.line) :
    SameClaims (play ls b) (play ls b') := by
  have hfinal := play_coherent hb ls
  rw [play_eq] at hearly hfinal ⊢
  rw [play_eq]
  refine eliminate_headStart (runTurns_headStart h hb hb' hfinal hearly ?_ ?_) hearly
  · intro c hc
    exact (eliminate_extended _ _).mem_claims hc
  · rintro ⟨s, l⟩ ht
    exact hnum l (mem_inOrder.1 (mem_turnsOf.1 ht).2)

end Payables.Board
