import Payables.Matching.Board
import Payables.Proofs.Order

/-!
# Claims on a board

The views of a board in terms of its claims, and the invariant that every claim keeps:
`Board.Coherent` says that no invoice line and no line of the purchase order occurs in two claims,
and that what is claimed is there.
-/

namespace Payables

/-- The line of the purchase order that a claim takes. -/
abbrev BoardClaim.poLine (c : BoardClaim) : ℤ := c.assignment.poLine

namespace Board

variable {b : Board} {n p : ℤ} {a : Assignment}

/-! ## Views -/

theorem isClaimed_iff : b.isClaimed p = true ↔ ∃ c ∈ b.claims, c.poLine = p := by
  simp [isClaimed]

theorem isAssigned_iff : b.isAssigned n = true ↔ ∃ c ∈ b.claims, c.lineNum = n := by
  simp [isAssigned, assignment?]

theorem isAssigned_eq_false_iff : b.isAssigned n = false ↔ ∀ c ∈ b.claims, c.lineNum ≠ n := by
  rw [← Bool.not_eq_true, isAssigned_iff]
  simp

theorem isClaimed_eq_false_iff :
    b.isClaimed p = false ↔ ∀ c ∈ b.claims, c.poLine ≠ p := by
  rw [← Bool.not_eq_true, isClaimed_iff]
  simp

theorem hasLine_iff : b.hasLine p = true ↔ ∃ e ∈ b.entries, e.line.lineNum = p := by
  simp [hasLine]

theorem mem_free_iff {e : BoardEntry} :
    e ∈ b.free ↔ e ∈ b.entries ∧ b.isClaimed e.line.lineNum = false := by
  simp [free]

/-- A claim takes its line out of the free ones. -/
theorem free_claim (b : Board) (n : ℤ) (a : Assignment) :
    (b.claim n a).free = b.free.filter fun e => e.line.lineNum != a.poLine := by
  unfold free
  rw [List.filter_filter, entries_claim]
  refine List.filter_congr fun e _ => ?_
  rw [isClaimed_claim, Bool.not_or]
  congr 1
  rw [bne, BEq.comm]

theorem mem_entries_ofOrder {po : PurchaseOrder} {receipts : List GoodsReceipt} {e : BoardEntry} :
    e ∈ (ofOrder po receipts).entries ↔
      ∃ q ∈ po.lines, e = ⟨q, TokenSet.ofText q.description⟩ := by
  simp only [ofOrder, mem_sortBy, List.mem_map, eq_comm]

/-! ## Coherence -/

/-- The claims of a board do not get in each other's way, and its lines have their own words. -/
structure Coherent (b : Board) : Prop where
  words : ∀ e ∈ b.entries, e.tokens = TokenSet.ofText e.line.description
  lines_nodup : (b.claims.map BoardClaim.lineNum).Nodup
  poLines_nodup : (b.claims.map BoardClaim.poLine).Nodup
  hasLine : ∀ c ∈ b.claims, b.hasLine c.poLine = true

theorem coherent_ofOrder (po : PurchaseOrder) (receipts : List GoodsReceipt) :
    (ofOrder po receipts).Coherent where
  words := by
    intro e he
    obtain ⟨q, -, rfl⟩ := mem_entries_ofOrder.1 he
    rfl
  lines_nodup := List.nodup_nil
  poLines_nodup := List.nodup_nil
  hasLine := by simp [ofOrder]

/-- An open line may claim any free line of the purchase order. -/
theorem Coherent.claim (h : b.Coherent) (hopen : b.isAssigned n = false)
    (hfree : b.isClaimed a.poLine = false) (hline : b.hasLine a.poLine = true) :
    (b.claim n a).Coherent where
  words := h.words
  lines_nodup := by
    refine List.nodup_cons.2 ⟨?_, h.lines_nodup⟩
    intro hmem
    obtain ⟨c, hc, hn⟩ := List.mem_map.1 hmem
    exact isAssigned_eq_false_iff.1 hopen c hc hn
  poLines_nodup := by
    refine List.nodup_cons.2 ⟨?_, h.poLines_nodup⟩
    intro hmem
    obtain ⟨c, hc, hp⟩ := List.mem_map.1 hmem
    exact isClaimed_eq_false_iff.1 hfree c hc hp
  hasLine := by
    intro c hc
    rcases List.mem_cons.1 hc with rfl | hc
    · exact hline
    · exact h.hasLine c hc

theorem Coherent.assignment?_eq_some_iff (h : b.Coherent) :
    b.assignment? n = some a ↔ ⟨n, a⟩ ∈ b.claims := by
  unfold assignment?
  rw [Option.map_eq_some_iff]
  constructor
  · rintro ⟨⟨m, _⟩, hc, rfl⟩
    obtain ⟨hmem, rfl⟩ := (find?_key_eq_some_iff _ h.lines_nodup).1 hc
    exact hmem
  · intro hmem
    exact ⟨⟨n, a⟩, (find?_key_eq_some_iff BoardClaim.lineNum h.lines_nodup).2 ⟨hmem, rfl⟩, rfl⟩

/-- No line of the purchase order is given to two invoice lines. -/
theorem Coherent.eq_of_poLine_eq (h : b.Coherent) {m : ℤ} {a' : Assignment}
    (hn : b.assignment? n = some a) (hm : b.assignment? m = some a')
    (heq : a.poLine = a'.poLine) : n = m := by
  have hc := h.assignment?_eq_some_iff.1 hn
  have hc' := h.assignment?_eq_some_iff.1 hm
  have := List.inj_on_of_nodup_map h.poLines_nodup hc hc' heq
  exact congrArg BoardClaim.lineNum this

/-! ## Boards with the same claims -/

/-- Two boards that differ at most in the order of their claims. -/
structure SameClaims (b b' : Board) : Prop where
  entries : b.entries = b'.entries
  receipts : b.receipts = b'.receipts
  claims : ∀ c, c ∈ b.claims ↔ c ∈ b'.claims

namespace SameClaims

variable {b' : Board}

theorem isClaimed_eq (h : SameClaims b b') (p : ℤ) : b.isClaimed p = b'.isClaimed p := by
  rw [Bool.eq_iff_iff, isClaimed_iff, isClaimed_iff]
  simp only [h.claims]

theorem isAssigned_eq (h : SameClaims b b') (n : ℤ) : b.isAssigned n = b'.isAssigned n := by
  rw [Bool.eq_iff_iff, isAssigned_iff, isAssigned_iff]
  simp only [h.claims]

theorem free_eq (h : SameClaims b b') : b.free = b'.free := by
  simp only [free, h.entries, h.isClaimed_eq]

theorem claim (h : SameClaims b b') (n : ℤ) (a : Assignment) :
    SameClaims (b.claim n a) (b'.claim n a) where
  entries := h.entries
  receipts := h.receipts
  claims := by
    intro c
    show c ∈ ⟨n, a⟩ :: b.claims ↔ c ∈ ⟨n, a⟩ :: b'.claims
    rw [List.mem_cons, List.mem_cons, h.claims]

theorem assignment?_eq (h : SameClaims b b') (hb : b.Coherent) (hb' : b'.Coherent) (n : ℤ) :
    b.assignment? n = b'.assignment? n := by
  refine Option.ext fun a => ?_
  rw [hb.assignment?_eq_some_iff, hb'.assignment?_eq_some_iff]
  exact h.claims _

end SameClaims

end Board
end Payables
