import Payables.Proofs.Document.Receipt
import Payables.Proofs.Matching.Claims
import Payables.Proofs.Matching.Rules

/-!
# What the strategies propose

Each strategy searches the free lines of a board in its own way.  In terms of the rules they all do
the same:

* `propose_eq_some` — a proposal is a free line with the confidence of its pair, and accepted once
  that reaches the floor.
* `exists_propose_of_accepts` — as long as an acceptable line is free, something that reaches the
  floor is proposed.
* `propose_congr` — a proposal looks at the free lines of a board only, and at the receipts of the
  document that the invoice line names, not at their order.
-/

namespace Payables

open Binary64

namespace Board

variable {b : Board} {l : InvoiceLine} {e : BoardEntry} {c : Candidate}

/-! ## The best of a list -/

section Best

variable {better : Binary64 → Binary64 → Bool} {score : BoardEntry → Option Binary64}

/-- What is known of the best line of the lines seen so far. -/
def BestOf (better : Binary64 → Binary64 → Bool) (score : BoardEntry → Option Binary64)
    (es : List BoardEntry) : Option (ℤ × Binary64) → Prop
  | none => ∀ e ∈ es, score e = none
  | some (n, x) => (∃ e ∈ es, e.line.lineNum = n ∧ score e = some x) ∧
      ∀ e ∈ es, ∀ y, score e = some y → better y x = false

/-- One more line is compared with the best of those before it. -/
theorem best_concat (es : List BoardEntry) (e : BoardEntry) :
    best better score (es ++ [e]) =
      match score e, best better score es with
      | none, found => found
      | some x, none => some (e.line.lineNum, x)
      | some x, some (n, y) => if better x y then some (e.line.lineNum, x) else some (n, y) := by
  unfold best
  rw [List.foldl_append, List.foldl_cons, List.foldl_nil]
  generalize es.foldl _ none = found
  cases score e <;> cases found <;> rfl

section Step

variable {es : List BoardEntry} {n : ℤ} {x y : Binary64}

/-- A line without a score changes nothing. -/
theorem BestOf.skip {found : Option (ℤ × Binary64)} (h : BestOf better score es found)
    (hx : score e = none) : BestOf better score (es ++ [e]) found := by
  cases found with
  | none =>
    intro e' he'
    rcases List.mem_append.1 he' with he' | he'
    · exact h e' he'
    · rw [List.mem_singleton.1 he', hx]
  | some found =>
    obtain ⟨⟨e₀, he₀, hn, hy⟩, hbest⟩ := h
    refine ⟨⟨e₀, List.mem_append_left _ he₀, hn, hy⟩, ?_⟩
    intro e' he' z hz
    rcases List.mem_append.1 he' with he' | he'
    · exact hbest e' he' z hz
    · rw [List.mem_singleton.1 he', hx] at hz
      cases hz

/-- The first line with a score is the best one. -/
theorem BestOf.first (irrefl : ∀ x, better x x = false) (h : BestOf better score es none)
    (hx : score e = some x) : BestOf better score (es ++ [e]) (some (e.line.lineNum, x)) := by
  refine ⟨⟨e, List.mem_append_right _ List.mem_cons_self, rfl, hx⟩, ?_⟩
  intro e' he' z hz
  rcases List.mem_append.1 he' with he' | he'
  · rw [h e' he'] at hz
    cases hz
  · rw [List.mem_singleton.1 he', hx] at hz
    cases hz
    exact irrefl x

/-- A better line takes the place of the best one. -/
theorem BestOf.replace (irrefl : ∀ x, better x x = false)
    (trans : ∀ x y z, better x y = true → better y z = true → better x z = true)
    (h : BestOf better score es (some (n, y))) (hx : score e = some x) (hxy : better x y = true) :
    BestOf better score (es ++ [e]) (some (e.line.lineNum, x)) := by
  refine ⟨⟨e, List.mem_append_right _ List.mem_cons_self, rfl, hx⟩, ?_⟩
  intro e' he' z hz
  rcases List.mem_append.1 he' with he' | he'
  · -- what beats the new line would have beaten the old one
    by_contra hzx
    have hzy := trans z x y (by simpa using hzx) hxy
    rw [h.2 e' he' z hz] at hzy
    cases hzy
  · rw [List.mem_singleton.1 he', hx] at hz
    cases hz
    exact irrefl x

/-- A line that is no better leaves the best one in place. -/
theorem BestOf.keep (h : BestOf better score es (some (n, y))) (hx : score e = some x)
    (hxy : better x y = false) : BestOf better score (es ++ [e]) (some (n, y)) := by
  obtain ⟨⟨e₀, he₀, hn, hy⟩, hbest⟩ := h
  refine ⟨⟨e₀, List.mem_append_left _ he₀, hn, hy⟩, ?_⟩
  intro e' he' z hz
  rcases List.mem_append.1 he' with he' | he'
  · exact hbest e' he' z hz
  · rw [List.mem_singleton.1 he', hx] at hz
    cases hz
    exact hxy

end Step

theorem bestOf_best (irrefl : ∀ x, better x x = false)
    (trans : ∀ x y z, better x y = true → better y z = true → better x z = true)
    (es : List BoardEntry) : BestOf better score es (best better score es) := by
  -- the induction appends one line at a time to those seen so far
  induction es using List.reverseRecOn with
  | nil =>
    show ∀ e ∈ [], score e = none
    simp
  | append_singleton es e ih =>
    rw [best_concat]
    cases hx : score e with
    | none => exact ih.skip hx
    | some x =>
      cases hfound : best better score es with
      | none =>
        rw [hfound] at ih
        exact ih.first irrefl hx
      | some found =>
        obtain ⟨n, y⟩ := found
        rw [hfound] at ih
        show BestOf better score (es ++ [e])
          (if better x y = true then some (e.line.lineNum, x) else some (n, y))
        by_cases hxy : better x y = true
        · rw [if_pos hxy]
          exact ih.replace irrefl trans hx hxy
        · rw [if_neg hxy]
          exact ih.keep hx (by simpa using hxy)

end Best

theorem bestOf_greatest (score : BoardEntry → Option Binary64) (es : List BoardEntry) :
    BestOf (fun x y => y.lt x) score es (best (fun x y => y.lt x) score es) :=
  @bestOf_best (fun x y => y.lt x) score Binary64.lt_irrefl
    (fun _ _ _ hxy hyz => Binary64.lt_trans hyz hxy) es

theorem bestOf_least (score : BoardEntry → Option Binary64) (es : List BoardEntry) :
    BestOf (fun x y => x.lt y) score es (best (fun x y => x.lt y) score es) :=
  bestOf_best Binary64.lt_irrefl (fun _ _ _ => Binary64.lt_trans) es

/-! ## By key and by material -/

theorem proposeKey_eq_some (h : b.proposeKey l = some c) :
    ∃ e ∈ b.free, c = ⟨e.line.lineNum, Strategy.keyBased.weight⟩ ∧
      l.poLineRef = some e.line.lineNum := by
  unfold proposeKey at h
  split at h
  · cases h
  rename_i n hn
  obtain ⟨e, he, rfl⟩ := Option.map_eq_some_iff.1 h
  have hnum : e.line.lineNum = n := by simpa using List.find?_some he
  exact ⟨e, List.mem_of_find?_eq_some he, rfl, by rw [hn, hnum]⟩

theorem exists_proposeKey (he : e ∈ b.free) (h : l.poLineRef = some e.line.lineNum) :
    ∃ c, b.proposeKey l = some c := by
  have hfind : (b.free.find? fun x => x.line.lineNum == e.line.lineNum).isSome = true :=
    List.find?_isSome.2 ⟨e, he, by simp⟩
  obtain ⟨x, hx⟩ := Option.isSome_iff_exists.1 hfind
  exact ⟨_, by simp only [proposeKey, h, hx, Option.map_some]; rfl⟩

theorem proposeMaterial_eq_some (h : b.proposeMaterial l = some c) :
    ∃ e ∈ b.free, c = ⟨e.line.lineNum, Strategy.vendorMaterial.weight⟩ ∧
      ∃ key, l.materialCode.bind materialKey? = some key ∧
        e.line.materialCode.bind materialKey? = some key := by
  unfold proposeMaterial at h
  split at h
  · cases h
  rename_i key hkey
  obtain ⟨e, he, rfl⟩ := Option.map_eq_some_iff.1 h
  exact ⟨e, List.mem_of_find?_eq_some he, rfl, key, hkey, by simpa using List.find?_some he⟩

theorem exists_proposeMaterial (he : e ∈ b.free) {key : String}
    (hl : l.materialCode.bind materialKey? = some key)
    (hq : e.line.materialCode.bind materialKey? = some key) :
    ∃ c, b.proposeMaterial l = some c := by
  have hfind : (b.free.find? fun x =>
      x.line.materialCode.bind materialKey? == some key).isSome = true :=
    List.find?_isSome.2 ⟨e, he, by simp [hq]⟩
  obtain ⟨x, hx⟩ := Option.isSome_iff_exists.1 hfind
  exact ⟨_, by simp only [proposeMaterial, hl, hx, Option.map_some]; rfl⟩

/-! ## By description -/

theorem similarityTo_eq (hb : b.Coherent) (he : e ∈ b.free) :
    similarityTo (TokenSet.ofText l.description) e =
      if (l.similarityTo e.line).le Binary64.zero then none else some (l.similarityTo e.line) := by
  unfold similarityTo InvoiceLine.similarityTo
  rw [hb.words e (mem_free_iff.1 he).1]

/-- A line is proposed with the confidence of its similarity, and no free line has a larger one. -/
theorem proposeSemantic_eq_some (hb : b.Coherent) (h : b.proposeSemantic l = some c) :
    ∃ e ∈ b.free, c = ⟨e.line.lineNum, semanticConfidence (l.similarityTo e.line)⟩ ∧
      ∀ e' ∈ b.free, semanticConfidence (l.similarityTo e'.line) ≤ c.rawConfidence := by
  obtain ⟨⟨n, x⟩, hbest, rfl⟩ := Option.map_eq_some_iff.1 h
  have hspec := bestOf_greatest (similarityTo (TokenSet.ofText l.description)) b.free
  rw [hbest] at hspec
  obtain ⟨⟨e, he, rfl, hx⟩, hgreatest⟩ := hspec
  have hxe : x = l.similarityTo e.line := by
    rw [similarityTo_eq hb he] at hx
    split at hx
    · cases hx
    · exact (Option.some.inj hx).symm
  subst hxe
  refine ⟨e, he, rfl, ?_⟩
  intro e' he'
  change semanticConfidence (l.similarityTo e'.line) ≤ semanticConfidence (l.similarityTo e.line)
  by_cases hzero : (l.similarityTo e'.line).le Binary64.zero = true
  · have hnone : semanticConfidence (l.similarityTo e'.line) = 0 :=
      semanticConfidence_of_le_zero hzero
    rw [hnone, UInt8.le_iff_toNat_le]
    exact Nat.zero_le _
  · refine semanticConfidence_mono (hgreatest e' he' _ ?_)
    rw [similarityTo_eq hb he', if_neg hzero]
    rfl

theorem exists_proposeSemantic (hb : b.Coherent) (he : e ∈ b.free)
    (h : ¬(l.similarityTo e.line).le Binary64.zero = true) : ∃ c, b.proposeSemantic l = some c := by
  have hspec := bestOf_greatest (similarityTo (TokenSet.ofText l.description)) b.free
  cases hbest : best (fun x y => y.lt x) (similarityTo (TokenSet.ofText l.description)) b.free with
  | none =>
    rw [hbest] at hspec
    have hnone := hspec e he
    rw [similarityTo_eq hb he, if_neg h] at hnone
    cases hnone
  | some found => exact ⟨_, Option.map_eq_some_iff.2 ⟨found, hbest, rfl⟩⟩

/-! ## By quantity and price -/

theorem deviationTo_eq_some_iff {d : Binary64} :
    deviationTo l e = some d ↔
      (Binary64.ofNat 2).lt (l.quantityDeviation e.line) = false ∧
        (Binary64.ofNat 2).lt (l.priceDeviation e.line) = false ∧
          d = (l.quantityDeviation e.line).max (l.priceDeviation e.line) := by
  have htol : Strategy.qtyPrice.tolerance = Binary64.ofNat 2 := rfl
  simp only [deviationTo, htol, InvoiceLine.quantityDeviation, InvoiceLine.priceDeviation]
  split
  · rename_i h
    simp only [Bool.or_eq_true] at h
    rcases h with h | h <;> simp [h]
  · rename_i h
    simp only [Bool.or_eq_true, not_or, Bool.not_eq_true] at h
    simp [h, eq_comm]

theorem proposeQtyPrice_eq_some (h : b.proposeQtyPrice l = some c) :
    ∃ e ∈ b.free, c = ⟨e.line.lineNum,
        deviationConfidence ((l.quantityDeviation e.line).max (l.priceDeviation e.line))⟩ ∧
      (Binary64.ofNat 2).lt (l.quantityDeviation e.line) = false ∧
        (Binary64.ofNat 2).lt (l.priceDeviation e.line) = false := by
  obtain ⟨⟨n, d⟩, hbest, rfl⟩ := Option.map_eq_some_iff.1 h
  have hspec := bestOf_least (deviationTo l) b.free
  rw [hbest] at hspec
  obtain ⟨⟨e, he, rfl, hd⟩, -⟩ := hspec
  obtain ⟨hquantity, hprice, rfl⟩ := deviationTo_eq_some_iff.1 hd
  exact ⟨e, he, rfl, hquantity, hprice⟩

theorem exists_proposeQtyPrice (he : e ∈ b.free)
    (hquantity : (Binary64.ofNat 2).lt (l.quantityDeviation e.line) = false)
    (hprice : (Binary64.ofNat 2).lt (l.priceDeviation e.line) = false) :
    ∃ c, b.proposeQtyPrice l = some c := by
  have hspec := bestOf_least (deviationTo l) b.free
  cases hbest : best (fun x y => x.lt y) (deviationTo l) b.free with
  | none =>
    rw [hbest] at hspec
    have hsome := deviationTo_eq_some_iff.2 ⟨hquantity, hprice, rfl⟩
    rw [hspec e he] at hsome
    cases hsome
  | some found => exact ⟨_, Option.map_eq_some_iff.2 ⟨found, hbest, rfl⟩⟩

/-! ## By receipt -/

theorem backedBy_eq (receipts : List GoodsReceipt) {document : String}
    (hl : l.receiptRef = some document) (q : PurchaseOrderLine) :
    GoodsReceipt.postedAgainst (receipts.filter fun r => r.document == document) q.lineNum =
      l.backedBy receipts q := by
  unfold GoodsReceipt.postedAgainst InvoiceLine.backedBy
  rw [List.filter_filter, hl]
  refine List.filter_congr fun r _ => ?_
  have hdocument : (some document == some r.document) = (r.document == document) := by
    rw [Bool.eq_iff_iff, beq_iff_eq, beq_iff_eq, Option.some.injEq]
    exact eq_comm
  rw [hdocument, Bool.and_comm]

theorem proposeReceipt_eq_some (h : b.proposeReceipt l = some c) :
    ∃ e ∈ b.free, c = ⟨e.line.lineNum, Strategy.grXref.pairConfidence b.receipts l e.line⟩ ∧
      l.backedBy b.receipts e.line ≠ [] := by
  unfold proposeReceipt at h
  split at h
  · cases h
  rename_i document hdocument
  obtain ⟨⟨n, quantity⟩, hfind, rfl⟩ := Option.map_eq_some_iff.1 h
  have hany : (b.free.any fun e => e.line.lineNum == n) = true :=
    List.find?_some (p := fun r : ℤ × Decimal => b.free.any fun e => e.line.lineNum == r.1) hfind
  obtain ⟨e, he, hn⟩ := List.any_eq_true.1 hany
  obtain rfl : e.line.lineNum = n := by simpa using hn
  have hat := Received.mem_ofReceipts_iff.1 (List.mem_of_find?_eq_some hfind)
  rw [Received.at?_ofReceipts, backedBy_eq b.receipts hdocument] at hat
  split at hat
  · cases hat
  rename_i hne
  obtain rfl := Option.some.inj hat
  exact ⟨e, he, rfl, hne⟩

theorem exists_proposeReceipt (he : e ∈ b.free) (h : l.backedBy b.receipts e.line ≠ []) :
    ∃ c, b.proposeReceipt l = some c := by
  obtain ⟨document, hdocument⟩ : ∃ document, l.receiptRef = some document := by
    obtain ⟨r, hr⟩ := List.exists_mem_of_ne_nil _ h
    have := (List.mem_filter.1 hr).2
    simp only [Bool.and_eq_true, beq_iff_eq] at this
    exact ⟨_, this.1⟩
  have hat := Received.at?_ofReceipts (b.receipts.filter fun r => r.document == document)
    e.line.lineNum
  rw [backedBy_eq b.receipts hdocument, if_neg h] at hat
  have hmem := Received.mem_ofReceipts_iff.2 hat
  have hfind : ((Received.ofReceipts (b.receipts.filter fun r => r.document == document)).find?
      fun r => b.free.any fun x => x.line.lineNum == r.1).isSome = true :=
    List.find?_isSome.2 ⟨_, hmem, List.any_eq_true.2 ⟨e, he, by simp⟩⟩
  obtain ⟨found, hfound⟩ := Option.isSome_iff_exists.1 hfind
  exact ⟨_, by simp only [proposeReceipt, hdocument, hfound, Option.map_some]; rfl⟩

/-! ## What any strategy proposes -/

/-- A proposal is a free line with the confidence of its pair, accepted once that reaches the
floor. -/
theorem propose_eq_some (hb : b.Coherent) {s : Strategy} (h : b.propose s l = some c) :
    ∃ e ∈ b.free, c = ⟨e.line.lineNum, s.pairConfidence b.receipts l e.line⟩ ∧
      (s.floor ≤ c.rawConfidence → s.Accepts b.receipts l e.line) := by
  cases s with
  | keyBased =>
    obtain ⟨e, he, rfl, hkey⟩ := proposeKey_eq_some h
    exact ⟨e, he, rfl, fun _ => hkey⟩
  | vendorMaterial =>
    obtain ⟨e, he, rfl, hkey⟩ := proposeMaterial_eq_some h
    exact ⟨e, he, rfl, fun _ => hkey⟩
  | semantic =>
    obtain ⟨e, he, rfl, -⟩ := proposeSemantic_eq_some hb h
    exact ⟨e, he, rfl, (floor_le_semanticConfidence_iff _ _).1⟩
  | qtyPrice =>
    obtain ⟨e, he, rfl, hquantity, hprice⟩ := proposeQtyPrice_eq_some h
    exact ⟨e, he, rfl, fun _ => ⟨hquantity, hprice⟩⟩
  | grXref =>
    obtain ⟨e, he, rfl, hbacked⟩ := proposeReceipt_eq_some h
    exact ⟨e, he, rfl, fun _ => hbacked⟩
  | elimination => cases h

/-- While an acceptable line is free, something that reaches the floor is proposed. -/
theorem exists_propose_of_accepts (hb : b.Coherent) {s : Strategy} (he : e ∈ b.free)
    (h : s.Accepts b.receipts l e.line) :
    ∃ c, b.propose s l = some c ∧ s.floor ≤ c.rawConfidence := by
  cases s with
  | keyBased =>
    obtain ⟨c, hc⟩ := exists_proposeKey he h
    obtain ⟨e', -, rfl, -⟩ := proposeKey_eq_some hc
    exact ⟨_, hc, Strategy.floor_le_weight .keyBased⟩
  | vendorMaterial =>
    obtain ⟨key, hl, hq⟩ := h
    obtain ⟨c, hc⟩ := exists_proposeMaterial he hl hq
    obtain ⟨e', -, rfl, -⟩ := proposeMaterial_eq_some hc
    exact ⟨_, hc, Strategy.floor_le_weight .vendorMaterial⟩
  | semantic =>
    -- the line that is proposed is at least as similar as the acceptable one
    have hfloor := (pairConfidence_mem (s := .semantic) h).1
    have hzero : ¬(l.similarityTo e.line).le Binary64.zero = true := by
      intro hle
      have hnone : semanticConfidence (l.similarityTo e.line) = 0 :=
        semanticConfidence_of_le_zero hle
      rw [Strategy.pairConfidence, hnone] at hfloor
      exact absurd hfloor (by decide)
    obtain ⟨c, hc⟩ := exists_proposeSemantic hb he hzero
    obtain ⟨e', -, -, hbest⟩ := proposeSemantic_eq_some hb hc
    exact ⟨c, hc, UInt8.le_trans hfloor (hbest e he)⟩
  | qtyPrice =>
    obtain ⟨c, hc⟩ := exists_proposeQtyPrice he h.1 h.2
    obtain ⟨e', -, rfl, hdeviations⟩ := proposeQtyPrice_eq_some hc
    have haccepts : Strategy.Accepts b.receipts l e'.line .qtyPrice := hdeviations
    exact ⟨_, hc, (pairConfidence_mem haccepts).1⟩
  | grXref =>
    obtain ⟨c, hc⟩ := exists_proposeReceipt he h
    obtain ⟨e', -, rfl, hbacked⟩ := proposeReceipt_eq_some hc
    have haccepts : Strategy.Accepts b.receipts l e'.line .grXref := hbacked
    exact ⟨_, hc, (pairConfidence_mem haccepts).1⟩
  | elimination => cases h

/-- Boards with the same free lines propose the same to a line, as long as they have the same
receipts of the document that it names, in whatever order. -/
theorem propose_congr {b' : Board} (hfree : b.free = b'.free) {l : InvoiceLine}
    (hreceipts : ∀ document, l.receiptRef = some document →
      (b.receipts.filter fun r => r.document == document).Perm
        (b'.receipts.filter fun r => r.document == document)) (s : Strategy) :
    b.propose s l = b'.propose s l := by
  cases s with
  | keyBased => simp only [propose, proposeKey, hfree]
  | vendorMaterial => simp only [propose, proposeMaterial, hfree]
  | semantic => simp only [propose, proposeSemantic, hfree]
  | qtyPrice => simp only [propose, proposeQtyPrice, hfree]
  | grXref =>
    simp only [propose, proposeReceipt, hfree]
    cases hdocument : l.receiptRef with
    | none => rfl
    | some document =>
      simp only [Received.ofReceipts_perm (hreceipts document hdocument)]
  | elimination => rfl

end Board
end Payables
