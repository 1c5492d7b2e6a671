import Payables.Proofs.Matching.Play
import Payables.Proofs.Matching.Prior
import Payables.Proofs.Matching.Winner

/-!
# The best candidate

The lines of a board stand in ascending order, whatever has been claimed, so a search that keeps
what it found until something better comes ends with the lowest number of its score.

* `Board.Reachable` — the boards that matching goes through.
* `Strategy.Suits`, `Strategy.score` — which lines a strategy chooses from, and by what.
* `propose_best` — what is proposed suits, has the lowest number of its score, and no line that the
  strategy compares it with is more confident (`Chosen`).  The receipt strategy compares nothing: it
  takes the lowest number of all.
* `propose_receipt_not_best` — so it passes by a line of which just the invoiced quantity was
  received.
-/

namespace Payables

open Binary64

/-! ## Candidates -/

namespace Strategy

/-- What makes an ordered line a candidate of a strategy for an invoice line.  Descriptions have to
share a word, however little that counts. -/
def Suits (receipts : List GoodsReceipt) (l : InvoiceLine) (q : PurchaseOrderLine) :
    Strategy → Prop
  | semantic => (l.similarityTo q).le Binary64.zero = false
  | s => s.Accepts receipts l q

/-- What a strategy has on a pair of lines: a similarity, a deviation, or a fixed confidence. -/
def score (receipts : List GoodsReceipt) (l : InvoiceLine) (q : PurchaseOrderLine) :
    Strategy → Binary64
  | semantic => l.similarityTo q
  | qtyPrice => (l.quantityDeviation q).max (l.priceDeviation q)
  | s => Binary64.ofNat (s.pairConfidence receipts l q).toNat

/-- What a strategy does not compare with the lines that it found before: the receipt strategy
compares nothing, and a deviation that is no number loses every comparison. -/
def Overlooks (l : InvoiceLine) (q : PurchaseOrderLine) : Strategy → Prop
  | grXref => True
  | qtyPrice => ((l.quantityDeviation q).max (l.priceDeviation q)).isNaN = true
  | _ => False

end Strategy

namespace Board

variable {b : Board} {l : InvoiceLine} {c : Candidate}

/-! ## The lowest number of a score -/

/-- The lines of a board stand in ascending order. -/
def Ascending (b : Board) : Prop :=
  b.entries.Pairwise fun e e' => e.line.lineNum ≤ e'.line.lineNum

theorem ascending_ofOrder (po : PurchaseOrder) (receipts : List GoodsReceipt) :
    (ofOrder po receipts).Ascending :=
  sortBy_pairwise (fun e : BoardEntry => e.line.lineNum) _

theorem Ascending.free (h : b.Ascending) :
    b.free.Pairwise fun e e' => e.line.lineNum ≤ e'.line.lineNum :=
  h.filter _

/-- Of the lines with the score of the best one, the search ends with the lowest. -/
theorem best_le {better : Binary64 → Binary64 → Bool} (ho : Orders better)
    {score : BoardEntry → Option Binary64} {es : List BoardEntry}
    (hes : es.Pairwise fun e e' => e.line.lineNum ≤ e'.line.lineNum) {n : ℤ} {x : Binary64}
    (h : best better score es = some (n, x)) {e : BoardEntry} (he : e ∈ es)
    (hx : score e = some x) : n ≤ e.line.lineNum := by
  induction es using List.reverseRecOn generalizing n x e with
  | nil => cases he
  | append_singleton es w ih =>
    obtain ⟨hes, -, hw⟩ := List.pairwise_append.1 hes
    have hspec : BestOf better score es (best better score es) :=
      bestOf_best ho.irrefl ho.trans es
    rw [best_concat] at h
    cases hy : score w with
    | none =>
      rw [hy] at h
      rcases List.mem_append.1 he with he | he
      · exact ih hes h he hx
      · rw [List.mem_singleton.1 he, hy] at hx
        cases hx
    | some y =>
      rw [hy] at h
      cases hfound : best better score es with
      | none =>
        rw [hfound] at h hspec
        cases h
        rcases List.mem_append.1 he with he | he
        · rw [hspec e he] at hx
          cases hx
        · rw [List.mem_singleton.1 he]
      | some found =>
        obtain ⟨m, z⟩ := found
        rw [hfound] at h hspec
        change (if better y z = true then some (w.line.lineNum, y) else some (m, z)) = _ at h
        by_cases hyz : better y z = true
        · -- nothing before has the score of a new winner
          rw [if_pos hyz] at h
          obtain ⟨rfl, rfl⟩ : w.line.lineNum = n ∧ y = x := by simpa using h
          rcases List.mem_append.1 he with he | he
          · rw [hspec.2 e he y hx] at hyz
            cases hyz
          · rw [List.mem_singleton.1 he]
        · rw [if_neg hyz] at h
          cases h
          rcases List.mem_append.1 he with he | he
          · exact ih hes hfound he hx
          · obtain ⟨e₀, he₀, rfl, -⟩ := hspec.1
            rw [List.mem_singleton.1 he]
            exact hw e₀ he₀ w List.mem_cons_self

/-! ## The strategies, one by one -/

/-- The line behind a candidate: free, suitable, and the lowest one of its score, with the
confidence of its pair, which is the greatest of what it was compared with. -/
structure Chosen (b : Board) (s : Strategy) (l : InvoiceLine) (c : Candidate) (e : BoardEntry) :
    Prop where
  free : e ∈ b.free
  candidate : c = ⟨e.line.lineNum, s.pairConfidence b.receipts l e.line⟩
  suits : s.Suits b.receipts l e.line
  greatest : ∀ e' ∈ b.free, s.Suits b.receipts l e'.line → ¬s.Overlooks l e'.line →
    s.pairConfidence b.receipts l e'.line ≤ c.rawConfidence
  lowest : ∀ e' ∈ b.free, s.Suits b.receipts l e'.line →
    s.score b.receipts l e'.line = s.score b.receipts l e.line → c.poLine ≤ e'.line.lineNum

theorem chosen_key (h : b.proposeKey l = some c) : ∃ e, b.Chosen .keyBased l c e := by
  obtain ⟨e, he, rfl, hkey⟩ := proposeKey_eq_some h
  refine ⟨e, he, rfl, hkey, fun _ _ _ _ => UInt8.le_refl _, ?_⟩
  intro e' _ hkey' _
  exact le_of_eq (Option.some.inj (hkey.symm.trans hkey'))

theorem chosen_material (hb : b.Ascending) (h : b.proposeMaterial l = some c) :
    ∃ e, b.Chosen .vendorMaterial l c e := by
  unfold proposeMaterial at h
  split at h
  · cases h
  rename_i key hkey
  obtain ⟨e, hfind, rfl⟩ := Option.map_eq_some_iff.1 h
  refine ⟨e, List.mem_of_find?_eq_some hfind, rfl,
    ⟨key, hkey, by simpa using List.find?_some hfind⟩, fun _ _ _ _ => UInt8.le_refl _, ?_⟩
  rintro e' he' ⟨key', hkey', hq⟩ _
  obtain rfl : key = key' := Option.some.inj (hkey.symm.trans hkey')
  exact find?_le_of_pairwise (fun e : BoardEntry => e.line.lineNum) hb.free hfind he'
    (by simp [hq])

theorem similarityTo_eq_some_iff (hb : b.Coherent) {e : BoardEntry} (he : e ∈ b.free)
    {x : Binary64} :
    similarityTo (TokenSet.ofText l.description) e = some x ↔
      (l.similarityTo e.line).le Binary64.zero = false ∧ x = l.similarityTo e.line := by
  rw [similarityTo_eq hb he]
  split
  · rename_i hle
    simp [hle]
  · rename_i hle
    simp [hle, eq_comm]

theorem chosen_semantic (hb : b.Coherent) (hes : b.Ascending) (h : b.proposeSemantic l = some c) :
    ∃ e, b.Chosen .semantic l c e := by
  obtain ⟨⟨n, x⟩, hbest, rfl⟩ := Option.map_eq_some_iff.1 h
  have hspec := bestOf_greatest (similarityTo (TokenSet.ofText l.description)) b.free
  rw [hbest] at hspec
  obtain ⟨⟨e, he, rfl, hx⟩, hgreatest⟩ := hspec
  obtain ⟨hsuits, rfl⟩ := (similarityTo_eq_some_iff hb he).1 hx
  refine ⟨e, he, rfl, hsuits, ?_, ?_⟩
  · intro e' he' hsuits' _
    exact semanticConfidence_mono
      (hgreatest e' he' _ ((similarityTo_eq_some_iff hb he').2 ⟨hsuits', rfl⟩))
  · intro e' he' hsuits' hscore
    exact best_le orders_gt hes.free hbest he'
      ((similarityTo_eq_some_iff hb he').2 ⟨hsuits', hscore.symm⟩)

/-- A larger deviation gets no larger confidence, and one that is no number gets the largest. -/
theorem deviationConfidence_le {x y : Binary64} (hx : x.isNegative = false)
    (hy : y.isNegative = false) (hnum : y.isNaN = false) (h : y.lt x = false) :
    deviationConfidence y ≤ deviationConfidence x := by
  cases x with
  | nan =>
    rw [deviationConfidence_nan]
    exact Variance.less_le _ _
  | infinite s =>
    obtain rfl : s = false := hx
    cases y with
    | nan => cases hnum
    | infinite t =>
      obtain rfl : t = false := hy
      exact UInt8.le_refl _
    | finite t m => cases h
  | finite s m =>
    obtain rfl : s = false := hx
    cases y with
    | nan => cases hnum
    | infinite t =>
      obtain rfl : t = false := hy
      rw [deviationConfidence_infinite, UInt8.le_iff_toNat_le]
      exact Nat.zero_le _
    | finite t m' =>
      obtain rfl : t = false := hy
      refine deviationConfidence_anti ?_
      simpa [lt, Binary64.value] using h

theorem chosen_deviation (hes : b.Ascending) (h : b.proposeQtyPrice l = some c) :
    ∃ e, b.Chosen .qtyPrice l c e := by
  obtain ⟨⟨n, x⟩, hbest, rfl⟩ := Option.map_eq_some_iff.1 h
  have hspec := bestOf_least (deviationTo l) b.free
  rw [hbest] at hspec
  obtain ⟨⟨e, he, rfl, hx⟩, hleast⟩ := hspec
  obtain ⟨hquantity, hprice, rfl⟩ := deviationTo_eq_some_iff.1 hx
  have hpositive : ∀ q : PurchaseOrderLine,
      ((l.quantityDeviation q).max (l.priceDeviation q)).isNegative = false :=
    fun _ => max_isNegative (abs_isNegative _) (abs_isNegative _)
  refine ⟨e, he, rfl, ⟨hquantity, hprice⟩, ?_, ?_⟩
  · rintro e' he' ⟨hquantity', hprice'⟩ hnum
    exact deviationConfidence_le (hpositive _) (hpositive _)
      (Bool.eq_false_iff.2 hnum)
      (hleast e' he' _ (deviationTo_eq_some_iff.2 ⟨hquantity', hprice', rfl⟩))
  · rintro e' he' ⟨hquantity', hprice'⟩ hscore
    exact best_le orders_lt hes.free hbest he'
      (deviationTo_eq_some_iff.2 ⟨hquantity', hprice', hscore.symm⟩)

/-- The receipt strategy takes the lowest of the lines that it may take. -/
theorem proposeReceipt_le (h : b.proposeReceipt l = some c) {e : BoardEntry} (he : e ∈ b.free)
    (hbacked : l.backedBy b.receipts e.line ≠ []) : c.poLine ≤ e.line.lineNum := by
  unfold proposeReceipt at h
  split at h
  · cases h
  rename_i document hdocument
  obtain ⟨⟨n, quantity⟩, hfind, rfl⟩ := Option.map_eq_some_iff.1 h
  have hat := Received.at?_ofReceipts (b.receipts.filter fun r => r.document == document)
    e.line.lineNum
  rw [backedBy_eq b.receipts hdocument, if_neg hbacked] at hat
  exact find?_le_of_pairwise Prod.fst ((Received.ofReceipts_pairwise _).imp fun h => h.le)
    hfind (Received.mem_ofReceipts_iff.2 hat) (List.any_eq_true.2 ⟨e, he, by simp⟩)

theorem chosen_receipt (h : b.proposeReceipt l = some c) : ∃ e, b.Chosen .grXref l c e := by
  obtain ⟨e, he, hc, hbacked⟩ := proposeReceipt_eq_some h
  refine ⟨e, he, hc, hbacked, ?_, ?_⟩
  · intro e' _ _ hcompared
    exact absurd trivial hcompared
  · intro e' he' hbacked' _
    exact proposeReceipt_le h he' hbacked'

/-- **What a strategy proposes.** -/
theorem exists_chosen (hb : b.Coherent) (hes : b.Ascending) {s : Strategy}
    (h : b.propose s l = some c) : ∃ e, b.Chosen s l c e := by
  cases s with
  | keyBased => exact chosen_key h
  | vendorMaterial => exact chosen_material hes h
  | semantic => exact chosen_semantic hb hes h
  | qtyPrice => exact chosen_deviation hes h
  | grXref => exact chosen_receipt h
  | elimination => cases h

/-! ## The boards of a run -/

/-- The boards that matching goes through: the board of the order with the claims of an accepted
prior, and what turns and eliminations make of it. -/
inductive Reachable (s : Snapshot) (po : PurchaseOrder) : Board → Prop
  | seeded {prior : List MatchResult} {b : Board}
      (hcheck : MatchResult.checkPrior s [] prior = .ok ())
      (hseed : (ofOrder po s.receipts).seed po.poNumber prior = .ok b) : Reachable s po b
  | turn {b : Board} (h : Reachable s po b) (strategy : Strategy) (l : InvoiceLine) :
      Reachable s po (turn strategy b l)
  | eliminate {b : Board} (h : Reachable s po b) (ls : List InvoiceLine) :
      Reachable s po (eliminate ls b)

namespace Reachable

variable {s : Snapshot} {po : PurchaseOrder}

/-- A board is where a run may start. -/
theorem start (s : Snapshot) (po : PurchaseOrder) : Reachable s po (ofOrder po s.receipts) :=
  @seeded s po [] _ rfl rfl

theorem coherent (h : Reachable s po b) : b.Coherent := by
  induction h with
  | seeded hcheck hseed => exact seed_coherent hcheck hseed
  | turn _ strategy l ih => exact turn_coherent ih strategy l
  | eliminate _ ls ih => exact eliminate_coherent ih ls

theorem ascending (h : Reachable s po b) : b.Ascending := by
  induction h with
  | seeded _ hseed =>
    obtain ⟨-, -, rfl⟩ := seed_eq_ok_iff.1 hseed
    exact ascending_ofOrder po s.receipts
  | turn h strategy l ih =>
    unfold Ascending at ih ⊢
    rwa [(turn_extended h.coherent strategy l).entries]
  | eliminate _ ls ih =>
    unfold Ascending at ih ⊢
    rwa [(eliminate_extended ls _).entries]

/-- Every board between the turns of a run is reached. -/
theorem runTurns (h : Reachable s po b) (ts : List (Strategy × InvoiceLine)) :
    Reachable s po (runTurns ts b) := by
  induction ts generalizing b with
  | nil => exact h
  | cons t ts ih => exact ih (h.turn t.1 t.2)

/-- The board at the end of a run is reached. -/
theorem play (h : Reachable s po b) (ls : List InvoiceLine) : Reachable s po (play ls b) := by
  rw [play_eq]
  exact (h.runTurns _).eliminate _

end Reachable

/-- **The best candidate.**  On every board that matching goes through, what a strategy proposes is
a free line that suits, with the confidence of its pair.  No suitable free line that the strategy
compares with it is more confident, and none of its score has a lower number.  By receipt, where
nothing is compared, none has a lower number at all. -/
theorem propose_best {s : Snapshot} {po : PurchaseOrder} (hb : Reachable s po b)
    {strategy : Strategy} (h : b.propose strategy l = some c) :
    (∃ e, b.Chosen strategy l c e) ∧
      (strategy = .grXref → ∀ e ∈ b.free, strategy.Suits b.receipts l e.line →
        c.poLine ≤ e.line.lineNum) := by
  refine ⟨exists_chosen hb.coherent hb.ascending h, ?_⟩
  rintro rfl e he hbacked
  exact proposeReceipt_le h he hbacked

/-! ## A delivery on one document

A document with receipts for two lines of an order, and an invoice line that names the document. -/

/-- The order. -/
def deliveryOrder : PurchaseOrder where
  poNumber := "P-4"
  vendorId := "V-1"
  created := ⟨2024, 1, 1⟩
  lines := [
    ⟨"P-4", 10, "copper wire", Decimal.ofInt 80, Decimal.ofInt 90, none, none⟩,
    ⟨"P-4", 20, "steel sheets", Decimal.ofInt 50, Decimal.ofInt 60, none, none⟩]

/-- The invoice line, of five pieces. -/
def deliveryLine : InvoiceLine where
  invoiceId := "I-4"
  lineNum := 1
  description := "goods as delivered"
  quantity := Decimal.ofInt 5
  unit := "EA"
  unitPrice := Decimal.ofInt 7
  amount := Decimal.ofInt 35
  poLineRef := none
  receiptRef := some "G-4"
  materialCode := none

/-- The invoice, with a document of three pieces for the first line of the order and five for the
second. -/
def delivery : Snapshot where
  header := ⟨"I-4", "V-1", "R-4", ⟨2024, 1, 2⟩, some "P-4", "USD"⟩
  lines := [deliveryLine]
  purchaseOrder := some deliveryOrder
  receipts := [
    ⟨"G-4", 1, some 10, Decimal.ofInt 3, ⟨2024, 1, 2⟩⟩,
    ⟨"G-4", 2, some 20, Decimal.ofInt 5, ⟨2024, 1, 2⟩⟩]

/-- The board of the order. -/
def deliveryBoard : Board := ofOrder deliveryOrder delivery.receipts

/-- The invoice line with a description that fits the first line of the order. -/
def copperLine : InvoiceLine := { deliveryLine with description := "copper wire" }

/-- Described like the first line of the order, the invoice line is matched to it. -/
theorem copperLine_chosen :
    ∃ e, deliveryBoard.propose .semantic copperLine = some ⟨10, 75⟩ ∧
      deliveryBoard.Chosen .semantic copperLine ⟨10, 75⟩ e := by
  have hpropose : deliveryBoard.propose .semantic copperLine = some ⟨10, 75⟩ := by
    decide +kernel
  obtain ⟨⟨e, hchosen⟩, -⟩ := propose_best (Reachable.start delivery deliveryOrder) hpropose
  exact ⟨e, hpropose, hchosen⟩

/-- **The first line is taken before the better one**, for which just the five pieces were
received. -/
theorem propose_receipt_not_best :
    Reachable delivery deliveryOrder deliveryBoard ∧
      deliveryBoard.propose .grXref deliveryLine = some ⟨10, 50⟩ ∧
      delivery.matchLines = .ok [.assigned ⟨10, .grXref, 50⟩] ∧
      ∃ e ∈ deliveryBoard.free, e.line.lineNum = 20 ∧
        Strategy.grXref.Suits deliveryBoard.receipts deliveryLine e.line ∧
        Strategy.grXref.pairConfidence deliveryBoard.receipts deliveryLine e.line = 65 := by
  have hbetter : ∃ e ∈ deliveryBoard.free, e.line.lineNum = 20 ∧
      deliveryLine.backedBy deliveryBoard.receipts e.line ≠ [] ∧
      Strategy.grXref.pairConfidence deliveryBoard.receipts deliveryLine e.line = 65 := by
    decide +kernel
  exact ⟨Reachable.start delivery deliveryOrder, by decide +kernel, by decide +kernel, hbetter⟩

end Board
end Payables
