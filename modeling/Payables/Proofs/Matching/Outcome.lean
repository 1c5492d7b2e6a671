import Payables.Matching.Outcome
import Payables.Proofs.Fallible

/-!
# When matching succeeds

Matching accepts a prior only as a whole.  `matchWithPrior_eq_ok_iff` says what an accepted run
consists of: either every line is unplanned, or the outcomes are read off one finished board.
-/

namespace Payables

namespace Snapshot

variable {s : Snapshot} {prior : List MatchResult} {os : List LineOutcome}

theorem unplannedOutcomes_eq_ok_iff :
    s.unplannedOutcomes prior = .ok os ↔
      (∀ r ∈ prior, r.poLine = none) ∧ os = s.lines.map fun _ => .unplanned := by
  unfold unplannedOutcomes
  split
  · rename_i r hr
    have hmem := List.mem_of_find?_eq_some hr
    have hsome : r.poLine.isSome = true := by simpa using List.find?_some hr
    refine ⟨nofun, ?_⟩
    rintro ⟨hnone, -⟩
    rw [hnone r hmem] at hsome
    cases hsome
  · rename_i hnone
    have hall : ∀ r ∈ prior, r.poLine = none := by
      intro r hr
      simpa using List.find?_eq_none.1 hnone r hr
    simp only [Except.ok.injEq]
    exact ⟨fun h => ⟨hall, h.symm⟩, fun h => h.2.symm⟩

/-- **What an accepted run is.**  Without a purchase order number every line is unplanned; with one
the outcomes are those of the board that has the prior seeded and all rounds played. -/
theorem matchWithPrior_eq_ok_iff :
    s.matchWithPrior prior = .ok os ↔
      MatchResult.checkPrior s [] prior = .ok () ∧
        ((s.header.poNumber = none ∧ (∀ r ∈ prior, r.poLine = none) ∧
            os = s.lines.map fun _ => .unplanned) ∨
          ∃ number po b, s.header.poNumber = some number ∧ s.purchaseOrder = some po ∧
            (Board.ofOrder po s.receipts).seed po.poNumber prior = .ok b ∧
            os = s.lines.map (b.play s.lines).outcome) := by
  unfold matchWithPrior
  rw [bind_eq_ok_iff]
  constructor
  · rintro ⟨⟨⟩, hcheck, h⟩
    refine ⟨hcheck, ?_⟩
    cases hn : s.header.poNumber with
    | none =>
      rw [hn] at h
      exact Or.inl ⟨rfl, unplannedOutcomes_eq_ok_iff.1 h⟩
    | some number =>
      cases hp : s.purchaseOrder with
      | none =>
        rw [hn, hp] at h
        cases h
      | some po =>
        rw [hn, hp] at h
        obtain ⟨b, hb, h⟩ := bind_eq_ok_iff.1 h
        cases h
        exact Or.inr ⟨number, po, b, rfl, rfl, hb, rfl⟩
  · rintro ⟨hcheck, ⟨hn, hnone, rfl⟩ | ⟨number, po, b, hn, hp, hb, rfl⟩⟩
    · refine ⟨(), hcheck, ?_⟩
      rw [hn]
      exact unplannedOutcomes_eq_ok_iff.2 ⟨hnone, rfl⟩
    · refine ⟨(), hcheck, ?_⟩
      rw [hn, hp]
      exact bind_eq_ok_iff.2 ⟨b, hb, rfl⟩

/-- On an invoice without an order nothing is matched. -/
theorem matchLines_of_unordered (hn : s.header.poNumber = none) :
    s.matchLines = .ok (s.lines.map fun _ => .unplanned) :=
  matchWithPrior_eq_ok_iff.2 ⟨rfl, Or.inl ⟨hn, by simp, rfl⟩⟩

/-- There is one outcome for each invoice line. -/
theorem length_of_matchWithPrior (h : s.matchWithPrior prior = .ok os) :
    os.length = s.lines.length := by
  obtain ⟨-, ⟨-, -, rfl⟩ | ⟨_, _, _, -, -, -, rfl⟩⟩ := matchWithPrior_eq_ok_iff.1 h <;> simp

end Snapshot
end Payables
