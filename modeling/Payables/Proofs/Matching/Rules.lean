import Payables.Proofs.Matching.Similarity
import Payables.Proofs.Matching.Variance

/-!
# The rules of the strategies

What each strategy asks of an invoice line and an ordered line, and the confidence that it gives the
pair, whatever else is on the board.

* `Strategy.Accepts`, `Strategy.pairConfidence` — the rule and the confidence of a pair.
* `deviationConfidence_anti`, `floor_le_deviationConfidence` — a larger deviation gets no larger
  confidence, and one within the tolerance of the quantity and price strategy never falls below its
  floor.
* `pairConfidence_mem` — the confidence of an accepted pair lies between floor and weight.
-/

namespace Payables

open Binary64

/-! ## Rules -/

namespace InvoiceLine

/-- The similarity of the descriptions of an invoice line and of an ordered line. -/
def similarityTo (l : InvoiceLine) (q : PurchaseOrderLine) : Binary64 :=
  (TokenSet.ofText l.description).similarity (TokenSet.ofText q.description)

/-- The change in quantity, without its sign. -/
def quantityDeviation (l : InvoiceLine) (q : PurchaseOrderLine) : Binary64 :=
  (percentChange l.quantity q.quantity).abs

/-- The change in price, without its sign. -/
def priceDeviation (l : InvoiceLine) (q : PurchaseOrderLine) : Binary64 :=
  (percentChange l.unitPrice q.unitPrice).abs

/-- The receipts of the document that an invoice line names which are posted against an ordered
line. -/
def backedBy (l : InvoiceLine) (receipts : List GoodsReceipt) (q : PurchaseOrderLine) :
    List GoodsReceipt :=
  receipts.filter fun r => l.receiptRef == some r.document && r.poLineNum == some q.lineNum

end InvoiceLine

namespace Strategy

/-- What a strategy asks of an invoice line and an ordered line.  Elimination looks at no pair. -/
def Accepts (receipts : List GoodsReceipt) (l : InvoiceLine) (q : PurchaseOrderLine) :
    Strategy → Prop
  | keyBased => l.poLineRef = some q.lineNum
  | vendorMaterial => ∃ key, l.materialCode.bind Board.materialKey? = some key ∧
      q.materialCode.bind Board.materialKey? = some key
  | semantic => (Binary64.ofNat 60).le ((Binary64.ofNat 75).mul (l.similarityTo q)).round = true
  | qtyPrice => (Binary64.ofNat 2).lt (l.quantityDeviation q) = false ∧
      (Binary64.ofNat 2).lt (l.priceDeviation q) = false
  | grXref => l.backedBy receipts q ≠ []
  | elimination => False

theorem accepts_vendorMaterial_iff {receipts : List GoodsReceipt} {l : InvoiceLine}
    {q : PurchaseOrderLine} :
    vendorMaterial.Accepts receipts l q ↔
      (l.materialCode.bind Board.materialKey?).isSome = true ∧
        q.materialCode.bind Board.materialKey? = l.materialCode.bind Board.materialKey? := by
  constructor
  · rintro ⟨key, hl, hq⟩
    exact ⟨by rw [hl]; rfl, by rw [hl, hq]⟩
  · rintro ⟨hsome, heq⟩
    obtain ⟨key, hl⟩ := Option.isSome_iff_exists.1 hsome
    exact ⟨key, hl, heq.trans hl⟩

/-- The rules can be checked. -/
instance decidableAccepts (receipts : List GoodsReceipt) (l : InvoiceLine)
    (q : PurchaseOrderLine) : ∀ s : Strategy, Decidable (s.Accepts receipts l q)
  | keyBased => inferInstanceAs (Decidable (l.poLineRef = some q.lineNum))
  | vendorMaterial => decidable_of_iff _ accepts_vendorMaterial_iff.symm
  | semantic => inferInstanceAs (Decidable (_ = true))
  | qtyPrice => inferInstanceAs (Decidable (_ = false ∧ _ = false))
  | grXref => inferInstanceAs (Decidable (l.backedBy receipts q ≠ []))
  | elimination => inferInstanceAs (Decidable False)

theorem floor_le_weight (s : Strategy) : s.floor ≤ s.weight := by
  cases s <;> decide

theorem weight_le_hundred (s : Strategy) : s.weight ≤ 100 := by
  cases s <;> decide

/-- The confidence that a strategy gives a pair. -/
def pairConfidence (receipts : List GoodsReceipt) (l : InvoiceLine) (q : PurchaseOrderLine) :
    Strategy → UInt8
  | semantic => Board.semanticConfidence (l.similarityTo q)
  | qtyPrice => Board.deviationConfidence ((l.quantityDeviation q).max (l.priceDeviation q))
  | grXref =>
    if (Decimal.sum ((l.backedBy receipts q).map GoodsReceipt.quantity)).eqv l.quantity then
      grXref.weight
    else grXref.floor
  | s => s.weight

end Strategy

namespace Board

/-! ## Confidences -/

theorem deviationRate_eq : deviationRate = finite false (15 / 2) := by
  have hgrid : OnGrid (15 / 2) :=
    onGrid_of_mul_two_pow (n := 15) (k := 1) (by norm_num) (by norm_num) (by norm_num)
  have hfit : (15 / 2 : ℚ) < overflowBound := by
    calc (15 / 2 : ℚ) < (8 : ℕ) := by norm_num
      _ < overflowBound := natCast_lt_overflowBound (by norm_num)
  have habs : ratAbs (15 / 2) = 15 / 2 := by
    rw [ratAbs_eq_abs]
    norm_num
  have hneg : decide ((15 / 2 : ℚ) < 0) = false := by norm_num
  rw [deviationRate, ofRat, habs, hneg, ofMagnitude_of_le (by norm_num) hgrid le_rfl hfit, hgrid.2]

/-- The largest cost that a deviation is charged with. -/
theorem byteLimit_eq : Binary64.ofNat 255 = finite false 255 :=
  ofNat_eq_finite (n := 255) (by norm_num)

/-- The confidence of a deviation: the weight without seven and a half points for each percent,
rounded. -/
theorem toNat_deviationConfidence_finite (m : ℚ) :
    (deviationConfidence (finite false m)).toNat =
      70 - min 255 (roundMagnitude (m * (15 / 2)) + 1 / 2).floor.toNat := by
  have hweight : Strategy.qtyPrice.weight.toNat = 70 := rfl
  rw [deviationConfidence, Variance.toNat_less, hweight, deviationRate_eq, byteLimit_eq]
  congr 1
  simp only [Binary64.mul]
  rcases ofMagnitude_cases (false != false) (m * (15 / 2)) with ⟨-, -, h⟩ | ⟨hbig, h⟩
  · have hclamp := toNat_clamp (n := 255) le_rfl (roundMagnitude (m * (15 / 2)) + 1 / 2).floor
    rw [h, min_comm]
    exact hclamp
  · -- an infinite product is cut off, and so is its magnitude
    have hmax : (finite false 255).toUInt8.toNat = 255 := toNat_toUInt8_finite 255
    have hk := floor_ge_of_overflow (n := 255) (by norm_num) hbig
    rw [h]
    show (finite false 255).toUInt8.toNat = _
    omega

/-- A deviation that is no number costs nothing. -/
theorem deviationConfidence_nan : deviationConfidence nan = Strategy.qtyPrice.weight := by
  rw [deviationConfidence, deviationRate_eq, byteLimit_eq]
  rfl

theorem deviationConfidence_infinite : deviationConfidence (infinite false) = 0 := by
  have hrate : (15 / 2 : ℚ) ≠ 0 := by norm_num
  have hmax : (finite false 255).toUInt8.toNat = 255 := toNat_toUInt8_finite 255
  rw [← UInt8.toNat_inj, deviationConfidence, Variance.toNat_less, deviationRate_eq, byteLimit_eq]
  simp only [Binary64.mul, if_neg hrate]
  show 70 - (finite false 255).toUInt8.toNat = 0
  omega

/-- A larger deviation gets no larger confidence. -/
theorem deviationConfidence_anti {m m' : ℚ} (h : m ≤ m') :
    deviationConfidence (finite false m') ≤ deviationConfidence (finite false m) := by
  rw [UInt8.le_iff_toNat_le, toNat_deviationConfidence_finite, toNat_deviationConfidence_finite]
  have hpoints := toNat_floor_round_mono (x := m * (15 / 2)) (y := m' * (15 / 2)) (by linarith)
  omega

/-- A deviation within the tolerance costs at most fifteen points. -/
theorem floor_le_deviationConfidence {x : Binary64} (h : (Binary64.ofNat 2).lt x.abs = false) :
    Strategy.qtyPrice.floor ≤ deviationConfidence x.abs := by
  have h2 : Binary64.ofNat 2 = finite false 2 := ofNat_eq_finite (n := 2) (by norm_num)
  have hfloor : Strategy.qtyPrice.floor.toNat = 55 := rfl
  rw [h2] at h
  cases x with
  | nan =>
    rw [Binary64.abs, deviationConfidence_nan]
    exact Strategy.floor_le_weight .qtyPrice
  | infinite s => simp [Binary64.abs, lt] at h
  | finite s m =>
    have hm : m ≤ 2 := by simpa [Binary64.abs, lt, Binary64.value] using h
    -- two percent, the tolerance, cost fifteen points
    have hanti := deviationConfidence_anti hm
    have htwo : Strategy.qtyPrice.floor ≤ deviationConfidence (finite false 2) := by
      have hgrid : roundMagnitude (2 * (15 / 2)) = 15 := by
        have h15 := roundMagnitude_natCast (n := 15) (by norm_num)
        norm_num at h15 ⊢
        exact h15
      have hk : ((15 : ℚ) + 1 / 2).floor = 15 := by decide +kernel
      rw [UInt8.le_iff_toNat_le, toNat_deviationConfidence_finite, hgrid, hk, hfloor]
      decide
    exact UInt8.le_trans htwo hanti

/-- The confidence of an accepted pair lies between floor and weight. -/
theorem pairConfidence_mem {s : Strategy} {receipts : List GoodsReceipt} {l : InvoiceLine}
    {q : PurchaseOrderLine}
    (h : s.Accepts receipts l q) :
    s.floor ≤ s.pairConfidence receipts l q ∧ s.pairConfidence receipts l q ≤ s.weight := by
  cases s with
  | keyBased => exact ⟨Strategy.floor_le_weight .keyBased, UInt8.le_refl _⟩
  | vendorMaterial => exact ⟨Strategy.floor_le_weight .vendorMaterial, UInt8.le_refl _⟩
  | semantic =>
    exact ⟨(floor_le_semanticConfidence_iff _ _).2 h, semanticConfidence_le_weight _ _⟩
  | qtyPrice =>
    obtain ⟨hquantity, hprice⟩ := h
    refine ⟨?_, Variance.less_le _ _⟩
    -- the larger of two deviations is one of them
    simp only [Strategy.pairConfidence, Binary64.max]
    split
    · exact floor_le_deviationConfidence hprice
    · split
      · exact floor_le_deviationConfidence hprice
      · exact floor_le_deviationConfidence hquantity
  | grXref =>
    simp only [Strategy.pairConfidence]
    split
    · exact ⟨Strategy.floor_le_weight .grXref, UInt8.le_refl _⟩
    · exact ⟨UInt8.le_refl _, Strategy.floor_le_weight .grXref⟩
  | elimination => cases h

end Board
end Payables
