import Payables.Proofs.Matching.Proposals

/-!
# The winner among fewer lines

A strategy picks one of the free lines of a board, and the lines that it passes by have no say in
which one that is.

* `best_eq_some_iff` — the search for the best line finds the first one of the best, so it finds the
  same line where some of the others are missing (`best_filter`).
* `Narrowed` — a board beside one on which fewer lines are free.  What a strategy claims on the
  first it claims on the second, as long as that line is still there (`Narrowed.propose`).
-/

namespace Payables

open Binary64

namespace Binary64

/-- Of two numbers in order one is apart from any third number. -/
theorem lt_or_lt_of_lt {x y z : Binary64} (h : x.lt z = true) (hy : y.isNaN = false) :
    x.lt y = true ∨ y.lt z = true := by
  obtain ⟨hx, hz⟩ := isNaN_of_le (le_of_lt h)
  by_contra hnone
  obtain ⟨hxy, hyz⟩ := not_or.1 hnone
  have hzy := le_of_lt_eq_false hz hy (by simpa using hyz)
  have hyx := le_of_lt_eq_false hy hx (by simpa using hxy)
  rw [lt_eq_false_of_le (le_trans hzy hyx)] at h
  cases h

/-- A comparison that puts numbers in order. -/
structure Orders (better : Binary64 → Binary64 → Bool) : Prop where
  irrefl : ∀ x, better x x = false
  trans : ∀ x y z, better x y = true → better y z = true → better x z = true
  apart : ∀ x y z, y.isNaN = false → better x z = true → better x y = true ∨ better y z = true

theorem orders_lt : Orders fun x y => x.lt y where
  irrefl := lt_irrefl
  trans := fun _ _ _ => lt_trans
  apart := fun _ _ _ hy hxz => lt_or_lt_of_lt hxz hy

theorem orders_gt : Orders fun x y => y.lt x where
  irrefl := lt_irrefl
  trans := fun _ _ _ hxy hyz => lt_trans hyz hxy
  apart := fun _ _ _ hy hxz => (lt_or_lt_of_lt hxz hy).symm

end Binary64

/-- What a search finds it still finds where some of the other elements are missing. -/
theorem find?_filter_of_eq_some {α : Type} {p keep : α → Bool} {xs : List α} {x : α}
    (h : xs.find? p = some x) (hkeep : keep x = true) : (xs.filter keep).find? p = some x := by
  obtain ⟨hp, before, after, rfl, hbefore⟩ := List.find?_eq_some_iff_append.1 h
  refine List.find?_eq_some_iff_append.2 ⟨hp, before.filter keep, after.filter keep, ?_, ?_⟩
  · rw [List.filter_append, List.filter_cons_of_pos hkeep]
  · intro y hy
    exact hbefore y (List.mem_filter.1 hy).1

/-- Both changes from an ordered line to an invoice line are numbers. -/
def InvoiceLine.Comparable (l : InvoiceLine) (q : PurchaseOrderLine) : Prop :=
  (percentChange l.quantity q.quantity).isNaN = false ∧
    (percentChange l.unitPrice q.unitPrice).isNaN = false

instance (l : InvoiceLine) (q : PurchaseOrderLine) : Decidable (l.Comparable q) :=
  inferInstanceAs (Decidable (_ ∧ _))

namespace Board

/-! ## The first of the best -/

section Best

variable {better : Binary64 → Binary64 → Bool} {score : BoardEntry → Option Binary64}
  {es : List BoardEntry} {n : ℤ} {x : Binary64} {keep : ℤ → Bool}

/-- A line is the first of the best ones: it beats those before it, and none after it beats it. -/
def FirstBest (better : Binary64 → Binary64 → Bool) (score : BoardEntry → Option Binary64)
    (es : List BoardEntry) (n : ℤ) (x : Binary64) : Prop :=
  ∃ before e after, es = before ++ e :: after ∧ e.line.lineNum = n ∧ score e = some x ∧
    (∀ e' ∈ before, ∀ y, score e' = some y → better x y = true) ∧
    ∀ e' ∈ after, ∀ y, score e' = some y → better y x = false

/-- The first of the best is so among any of the lines that it is one of. -/
theorem FirstBest.filter (h : FirstBest better score es n x) (hkeep : keep n = true) :
    FirstBest better score (es.filter fun e => keep e.line.lineNum) n x := by
  obtain ⟨before, e, after, rfl, rfl, hx, hbefore, hafter⟩ := h
  refine ⟨before.filter fun e => keep e.line.lineNum, e,
    after.filter fun e => keep e.line.lineNum, ?_, rfl, hx, ?_, ?_⟩
  · rw [List.filter_append, List.filter_cons, if_pos hkeep]
  · intro e' he'
    exact hbefore e' (List.mem_filter.1 he').1
  · intro e' he'
    exact hafter e' (List.mem_filter.1 he').1

theorem FirstBest.concat {e : BoardEntry} (h : FirstBest better score es n x)
    (he : ∀ y, score e = some y → better y x = false) :
    FirstBest better score (es ++ [e]) n x := by
  obtain ⟨before, w, after, rfl, hn, hx, hbefore, hafter⟩ := h
  refine ⟨before, w, after ++ [e], by simp, hn, hx, hbefore, ?_⟩
  intro e' he'
  rcases List.mem_append.1 he' with he' | he'
  · exact hafter e' he'
  · rw [List.mem_singleton.1 he']
    exact he

/-- The search ends with the first of the best. -/
theorem best_of_firstBest (ho : Orders better) (h : FirstBest better score es n x) :
    best better score es = some (n, x) := by
  obtain ⟨before, e, after, rfl, rfl, hx, hbefore, hafter⟩ := h
  -- the lines after the winner are looked at one by one
  induction after using List.reverseRecOn with
  | nil =>
    rw [best_concat, hx]
    cases hfound : best better score before with
    | none => rfl
    | some found =>
      obtain ⟨m, y⟩ := found
      have hspec : BestOf better score before (best better score before) :=
        bestOf_best ho.irrefl ho.trans before
      rw [hfound] at hspec
      obtain ⟨⟨e', he', -, hy⟩, -⟩ := hspec
      show (if better x y = true then some (e.line.lineNum, x) else some (m, y)) = _
      rw [if_pos (hbefore e' he' y hy)]
  | append_singleton after e' ih =>
    have hrest := ih fun w hw => hafter w (List.mem_append_left _ hw)
    rw [← List.cons_append, ← List.append_assoc, best_concat, hrest]
    cases hy : score e' with
    | none => rfl
    | some y =>
      have hworse := hafter e' (List.mem_append_right _ List.mem_cons_self) y hy
      show (if better y x = true then some (e'.line.lineNum, y) else some (e.line.lineNum, x)) = _
      rw [if_neg (by simp [hworse])]

/-- Where all scores are comparable, nothing else ends the search. -/
theorem firstBest_of_best (ho : Orders better)
    (hnum : ∀ e ∈ es, ∀ y, score e = some y → y.isNaN = false)
    (h : best better score es = some (n, x)) : FirstBest better score es n x := by
  induction es using List.reverseRecOn generalizing n x with
  | nil => cases h
  | append_singleton es e ih =>
    have hnum' : ∀ e' ∈ es, ∀ y, score e' = some y → y.isNaN = false :=
      fun e' he' => hnum e' (List.mem_append_left _ he')
    have hspec : BestOf better score es (best better score es) :=
      bestOf_best ho.irrefl ho.trans es
    rw [best_concat] at h
    cases hy : score e with
    | none =>
      rw [hy] at h
      exact (ih hnum' h).concat (by simp [hy])
    | some y =>
      rw [hy] at h
      cases hfound : best better score es with
      | none =>
        rw [hfound] at h hspec
        cases h
        refine ⟨es, e, [], rfl, rfl, hy, ?_, by simp⟩
        intro e' he' z hz
        rw [hspec e' he'] at hz
        cases hz
      | some found =>
        obtain ⟨m, z⟩ := found
        rw [hfound] at h hspec
        change (if better y z = true then some (e.line.lineNum, y) else some (m, z)) = _ at h
        by_cases hyz : better y z = true
        · -- a new winner beats what the old one was no worse than
          rw [if_pos hyz] at h
          obtain ⟨rfl, rfl⟩ : e.line.lineNum = n ∧ y = x := by simpa using h
          refine ⟨es, e, [], rfl, rfl, hy, ?_, by simp⟩
          intro e' he' w hw
          rcases ho.apart y w z (hnum' e' he' w hw) hyz with hyw | hwz
          · exact hyw
          · rw [hspec.2 e' he' w hw] at hwz
            cases hwz
        · rw [if_neg hyz] at h
          cases h
          refine (ih hnum' hfound).concat ?_
          intro w hw
          obtain rfl : y = w := Option.some.inj (hy.symm.trans hw)
          simpa using hyz

/-- **The search finds the first of the best**, where all scores are comparable. -/
theorem best_eq_some_iff (ho : Orders better)
    (hnum : ∀ e ∈ es, ∀ y, score e = some y → y.isNaN = false) :
    best better score es = some (n, x) ↔ FirstBest better score es n x :=
  ⟨firstBest_of_best ho hnum, best_of_firstBest ho⟩

/-- The winner is the same where some of the other lines are missing. -/
theorem best_filter (ho : Orders better)
    (hnum : ∀ e ∈ es, ∀ y, score e = some y → y.isNaN = false)
    (h : best better score es = some (n, x)) (hkeep : keep n = true) :
    best better score (es.filter fun e => keep e.line.lineNum) = some (n, x) :=
  best_of_firstBest ho (((best_eq_some_iff ho hnum).1 h).filter hkeep)

end Best

/-! ## Boards with fewer free lines -/

/-- A board beside one on which only some of its free lines are left. -/
structure Narrowed (keep : ℤ → Bool) (b b' : Board) : Prop where
  free : b'.free = b.free.filter fun e => keep e.line.lineNum
  receipts : b'.receipts = b.receipts

/-- A similarity that is compared is that of the words. -/
theorem eq_similarity_of_similarityTo {tokens : TokenSet} {e : BoardEntry} {x : Binary64}
    (h : similarityTo tokens e = some x) : x = tokens.similarity e.tokens := by
  unfold similarityTo at h
  dsimp only at h
  split at h
  · cases h
  · exact (Option.some.inj h).symm

/-- Where one similarity to a set of words has any confidence, all of them are numbers. -/
theorem similarity_isNaN_of_confidence {tokens words : TokenSet}
    (h : semanticConfidence (tokens.similarity words) ≠ 0) (others : TokenSet) :
    (tokens.similarity others).isNaN = false := by
  rcases tokens.similarity_cases with hfin | hnone
  · obtain ⟨m, -, hm⟩ := hfin others
    rw [hm]
    rfl
  · refine absurd ?_ h
    rcases hnone words with heq | heq <;> rw [heq]
    · exact semanticConfidence_nan
    · exact semanticConfidence_zero

namespace Narrowed

variable {keep : ℤ → Bool} {b b' : Board} {l : InvoiceLine} {c : Candidate}

theorem proposeKey (h : Narrowed keep b b') (hc : b.proposeKey l = some c)
    (hkeep : keep c.poLine = true) : b'.proposeKey l = some c := by
  unfold Board.proposeKey at hc ⊢
  split at hc
  · cases hc
  · obtain ⟨e, he, rfl⟩ := Option.map_eq_some_iff.1 hc
    rw [h.free, find?_filter_of_eq_some he hkeep]
    rfl

theorem proposeMaterial (h : Narrowed keep b b') (hc : b.proposeMaterial l = some c)
    (hkeep : keep c.poLine = true) : b'.proposeMaterial l = some c := by
  unfold Board.proposeMaterial at hc ⊢
  split at hc
  · cases hc
  · obtain ⟨e, he, rfl⟩ := Option.map_eq_some_iff.1 hc
    rw [h.free, find?_filter_of_eq_some he hkeep]
    rfl

theorem proposeSemantic (h : Narrowed keep b b') (hc : b.proposeSemantic l = some c)
    (hfloor : Strategy.semantic.floor ≤ c.rawConfidence) (hkeep : keep c.poLine = true) :
    b'.proposeSemantic l = some c := by
  obtain ⟨⟨n, x⟩, hbest, rfl⟩ := Option.map_eq_some_iff.1 hc
  have hspec := bestOf_greatest (similarityTo (TokenSet.ofText l.description)) b.free
  rw [hbest] at hspec
  obtain ⟨⟨e, -, -, hx⟩, -⟩ := hspec
  have hsome : semanticConfidence x ≠ 0 := by
    intro hzero
    have hfloor' : Strategy.semantic.floor ≤ semanticConfidence x := hfloor
    rw [hzero] at hfloor'
    exact absurd hfloor' (by decide)
  refine Option.map_eq_some_iff.2 ⟨(n, x), ?_, rfl⟩
  rw [h.free]
  refine best_filter orders_gt ?_ hbest hkeep
  intro e' _ y hy
  rw [eq_similarity_of_similarityTo hx] at hsome
  rw [eq_similarity_of_similarityTo hy]
  exact similarity_isNaN_of_confidence hsome e'.tokens

theorem proposeQtyPrice (h : Narrowed keep b b') (hnum : ∀ e ∈ b.free, l.Comparable e.line)
    (hc : b.proposeQtyPrice l = some c) (hkeep : keep c.poLine = true) :
    b'.proposeQtyPrice l = some c := by
  obtain ⟨⟨n, d⟩, hbest, rfl⟩ := Option.map_eq_some_iff.1 hc
  refine Option.map_eq_some_iff.2 ⟨(n, d), ?_, rfl⟩
  rw [h.free]
  refine best_filter orders_lt ?_ hbest hkeep
  intro e he y hy
  obtain ⟨-, -, rfl⟩ := deviationTo_eq_some_iff.1 hy
  obtain ⟨hquantity, hprice⟩ := hnum e he
  rw [← abs_isNaN] at hquantity hprice
  unfold Binary64.max
  split
  · exact hprice
  · split
    · exact hprice
    · exact hquantity

theorem proposeReceipt (h : Narrowed keep b b') (hc : b.proposeReceipt l = some c)
    (hkeep : keep c.poLine = true) : b'.proposeReceipt l = some c := by
  unfold Board.proposeReceipt at hc ⊢
  split at hc
  · cases hc
  · obtain ⟨⟨n, quantity⟩, hfind, rfl⟩ := Option.map_eq_some_iff.1 hc
    obtain ⟨hany, before, after, hsplit, hbefore⟩ := List.find?_eq_some_iff_append.1 hfind
    have hleft : ∀ m, (b'.free.any fun e => e.line.lineNum == m) = true ↔
        (b.free.any fun e => e.line.lineNum == m) = true ∧ keep m = true := by
      intro m
      simp only [h.free, List.any_eq_true, List.mem_filter, beq_iff_eq]
      constructor
      · rintro ⟨e, ⟨he, hk⟩, rfl⟩
        exact ⟨⟨e, he, rfl⟩, hk⟩
      · rintro ⟨⟨e, he, rfl⟩, hk⟩
        exact ⟨e, ⟨he, hk⟩, rfl⟩
    refine Option.map_eq_some_iff.2 ⟨(n, quantity), ?_, rfl⟩
    rw [h.receipts]
    refine List.find?_eq_some_iff_append.2 ⟨(hleft n).2 ⟨hany, hkeep⟩, before, after, hsplit, ?_⟩
    intro r hr
    have hnone := hbefore r hr
    rw [Bool.not_eq_true'] at hnone ⊢
    rw [← Bool.not_eq_true, hleft, hnone]
    simp

/-- **What a strategy claims it also claims among fewer lines**, as long as the line is one of
them. -/
theorem propose {s : Strategy} (h : Narrowed keep b b')
    (hnum : ∀ e ∈ b.free, l.Comparable e.line) (hc : b.propose s l = some c)
    (hfloor : s.floor ≤ c.rawConfidence)
    (hkeep : keep c.poLine = true) : b'.propose s l = some c := by
  cases s with
  | keyBased => exact h.proposeKey hc hkeep
  | vendorMaterial => exact h.proposeMaterial hc hkeep
  | semantic => exact h.proposeSemantic hc hfloor hkeep
  | qtyPrice => exact h.proposeQtyPrice hnum hc hkeep
  | grXref => exact h.proposeReceipt hc hkeep
  | elimination => cases hc

end Narrowed

end Board
end Payables
