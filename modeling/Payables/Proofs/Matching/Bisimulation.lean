import Payables.Proofs.Matching.Play
import Payables.Proofs.Related

/-!
# Boards played side by side

Two runs are compared through a relation between their boards and another one between their lines.
`Board.Bisimulation` says what the two have to keep for the runs to stay together: related boards
look alike to related lines, and a claim that is made on both leaves them related.  From one turn
(`Bisimulation.turn`) this carries over to the rounds, to elimination and so to a whole run
(`Bisimulation.play`).  The order of the claims is one thing that no line sees
(`sameClaims_bisimulation`).
-/

namespace Payables.Board

/-- Boards that look alike to related lines, and keep doing so whatever is claimed on both. -/
structure Bisimulation (L : InvoiceLine → InvoiceLine → Prop) (R : Board → Board → Prop) :
    Prop where
  lineNum : ∀ {l l'}, L l l' → l.lineNum = l'.lineNum
  propose : ∀ {b b' l l'}, R b b' → L l l' → ∀ s, b.propose s l = b'.propose s l'
  isAssigned : ∀ {b b'}, R b b' → ∀ n, b.isAssigned n = b'.isAssigned n
  free : ∀ {b b'}, R b b' →
    List.Forall₂ (fun e e' => e.line.lineNum = e'.line.lineNum) b.free b'.free
  claim : ∀ {b b'}, R b b' → ∀ n a, R (b.claim n a) (b'.claim n a)

namespace Bisimulation

variable {L : InvoiceLine → InvoiceLine → Prop} {R : Board → Board → Prop} {b b' : Board}
  {l l' : InvoiceLine} {ls ls' : List InvoiceLine}

/-- A turn does the same on both boards. -/
theorem turn (hR : Bisimulation L R) (h : R b b') (hl : L l l') (s : Strategy) :
    R (turn s b l) (turn s b' l') := by
  unfold Board.turn
  rw [hR.lineNum hl, hR.isAssigned h, hR.propose h hl]
  split
  · exact h
  · split
    · exact h
    · split
      · exact h
      · exact hR.claim h _ _

theorem round (hR : Bisimulation L R) (h : R b b') (hls : List.Forall₂ L ls ls') (s : Strategy) :
    R (round ls b s) (round ls' b' s) := by
  refine List.rel_foldl (P := R) (R := L) ?_ h hls
  intro b b' hb l l' hl
  exact hR.turn hb hl s

theorem inOrder (hR : Bisimulation L R) (hls : List.Forall₂ L ls ls') :
    List.Forall₂ L (inOrder ls) (inOrder ls') :=
  sortBy_related (fun _ _ hl => hR.lineNum hl) hls

theorem rounds (hR : Bisimulation L R) (h : R b b') (hls : List.Forall₂ L ls ls') :
    R (rounds ls b) (rounds ls' b') := by
  have hsame : List.Forall₂ Eq Strategy.proposing Strategy.proposing := List.forall₂_refl _
  refine List.rel_foldl (P := R) (R := Eq) ?_ h hsame
  rintro b b' hb s _ rfl
  exact hR.round hb (hR.inOrder hls) s

/-- Elimination finds the same remainder on both boards. -/
theorem eliminate (hR : Bisimulation L R) (h : R b b') (hls : List.Forall₂ L ls ls') :
    R (eliminate ls b) (eliminate ls' b') := by
  have hopen : List.Forall₂ L (ls.filter fun l => !b.isAssigned l.lineNum)
      (ls'.filter fun l => !b'.isAssigned l.lineNum) :=
    filter_related hls fun l l' hl => by rw [hR.lineNum hl, hR.isAssigned h]
  have hfree := hR.free h
  unfold Board.eliminate
  generalize (ls.filter fun l => !b.isAssigned l.lineNum) = opens at *
  generalize (ls'.filter fun l => !b'.isAssigned l.lineNum) = opens' at *
  generalize b.free = frees at *
  generalize b'.free = frees' at *
  cases hopen with
  | nil => exact h
  | cons hl hopen =>
    cases hopen with
    | cons => exact h
    | nil =>
      cases hfree with
      | nil => exact h
      | cons he hfree =>
        cases hfree with
        | cons => exact h
        | nil =>
          -- one line is open and one is free, on both boards
          simp only [hR.lineNum hl, he]
          exact hR.claim h _ _

/-- **Playing keeps the boards side by side.** -/
theorem play (hR : Bisimulation L R) (h : R b b') (hls : List.Forall₂ L ls ls') :
    R (play ls b) (play ls' b') := by
  rw [play_eq_eliminate, play_eq_eliminate]
  exact hR.eliminate (hR.rounds h hls) (hR.inOrder hls)

end Bisimulation

/-- Boards that differ in the order of their claims look alike to every line. -/
theorem sameClaims_bisimulation : Bisimulation Eq SameClaims where
  lineNum := congrArg InvoiceLine.lineNum
  propose h hl s := hl ▸ propose_congr h.free_eq (fun _ _ => h.receipts ▸ .refl _) s
  isAssigned h := h.isAssigned_eq
  free h := h.free_eq ▸ List.forall₂_refl _
  claim h := h.claim

end Payables.Board
