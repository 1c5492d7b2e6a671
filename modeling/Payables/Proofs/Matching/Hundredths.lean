import Payables.Proofs.Binary64.Magnitude
import Payables.Proofs.Matching.PercentChange
import Payables.Proofs.Matching.Rules

/-!
# Percentages in hundredths

A measured percentage is rounded to two places, so it is the number nearest to a whole count of
hundredths (`percentChange_eq_hundredths`), and within the tolerance of the quantity and price
strategy there are few of these (`le_of_ofHundredths_le_two`).  What the confidences are computed
from such a percentage in binary64 arithmetic is what exact arithmetic on the hundredths gives
(`rate_ofHundredths`, `tenfold_ofHundredths`), although most hundredths are no binary64 numbers and
a product with one may end on the wrong side of a half.

* `Variance.measure_abs` — the strategy and the score look at the two deviations in different ways
  and still agree: a variance that is finite is the larger deviation.
* `Variance.exists_ofHundredths_le` — so on a pair that the strategy accepts it is at most two
  hundred hundredths.
* `Board.toNat_deviationConfidence`, `Variance.toNat_penalty` — the raw confidence and the penalty
  of such a pair.
-/

namespace Payables

open Binary64

/-- The number nearest to `k` hundredths. -/
def Binary64.ofHundredths (k : ℕ) : Binary64 := ofMagnitude false (k / 100)

/-- **A measured percentage is a whole number of hundredths.** -/
theorem percentChange_eq_hundredths {invoiced ordered : Decimal} {s : Bool} {m : ℚ}
    (h : percentChange invoiced ordered = finite s m) : ∃ k, finite false m = ofHundredths k := by
  rcases eq_or_ne ordered.value 0 with hzero | hne
  · rw [percentChange_of_zero hzero] at h
    split at h
    · cases h
      exact ⟨0, by decide +kernel⟩
    · cases h
      exact ⟨10000, by decide +kernel⟩
  rw [percentChange_of_ne_zero hne] at h
  have hproper : ((percentQuotient invoiced ordered).toBinary64.mul (finite false 100)).Proper :=
    (Decimal.proper_toBinary64 _).mul (proper_finite (by norm_num))
  generalize (percentQuotient invoiced ordered).toBinary64.mul (finite false 100) = x at h hproper
  cases x with
  | nan => cases h
  | infinite t => cases h
  | finite t c =>
    -- the rounded number of hundredths is a natural number
    obtain ⟨k, hk⟩ : ∃ k : ℕ, (c + 1 / 2).floor = k := by
      refine Int.eq_ofNat_of_zero_le (Rat.le_floor_iff.2 ?_)
      have := hproper t c rfl
      push_cast
      linarith
    simp only [Binary64.round, hk, Binary64.div, Int.cast_natCast] at h
    rw [if_neg (by norm_num)] at h
    obtain ⟨-, rfl, hlt⟩ := ofMagnitude_eq_finite h
    refine ⟨k, ?_⟩
    rw [ofHundredths, ofMagnitude, if_pos hlt]

/-- Two percent are two hundred hundredths. -/
theorem le_of_ofHundredths_le_two {k : ℕ} {m : ℚ} (h : finite false m = ofHundredths k)
    (hm : m ≤ 2) : k ≤ 200 := by
  obtain ⟨-, rfl, -⟩ := ofMagnitude_eq_finite h.symm
  have hgrid : OnGrid (257 / 128) :=
    onGrid_of_mul_two_pow (n := 257) (k := 7) (by norm_num) (by norm_num) (by norm_num)
  have hlt : (k : ℚ) / 100 < 257 / 128 := hgrid.lt_of_round_lt (hm.trans_lt (by norm_num))
  have hk : (k : ℚ) < 201 := by linarith
  have : k < 201 := by exact_mod_cast hk
  omega

/-! ## Rounded products -/

set_option maxRecDepth 4000 in
/-- Seven and a half times a percentage, rounded in binary64 arithmetic, is so in exact
arithmetic.  At a half, which a product with a hundredth can meet, this needs the rounding of that
very product, so each of the percentages is looked at. -/
theorem rate_ofHundredths : ∀ k ≤ 200, ((ofHundredths k).mul Board.deviationRate).round =
    finite false (Decimal.nearest (15 / 2 * (k / 100))) := by
  decide +kernel

set_option maxRecDepth 4000 in
/-- So is ten times a percentage. -/
theorem tenfold_ofHundredths : ∀ k ≤ 200, ((ofHundredths k).mul (Binary64.ofNat 10)).round =
    finite false (Decimal.nearest (10 * (k / 100))) := by
  decide +kernel

/-- Within the tolerance, the first of these products comes to fifteen points at the most. -/
theorem nearest_rate_mem {k : ℕ} (hk : k ≤ 200) :
    0 ≤ Decimal.nearest (15 / 2 * (k / 100)) ∧ Decimal.nearest (15 / 2 * (k / 100)) ≤ 15 := by
  have hk' : (k : ℚ) ≤ 200 := by exact_mod_cast hk
  exact Decimal.nearest_mem (by positivity) (by push_cast; linarith)

/-- The second one comes to twenty. -/
theorem nearest_tenfold_mem {k : ℕ} (hk : k ≤ 200) :
    0 ≤ Decimal.nearest (10 * (k / 100)) ∧ Decimal.nearest (10 * (k / 100)) ≤ 20 := by
  have hk' : (k : ℚ) ≤ 200 := by exact_mod_cast hk
  exact Decimal.nearest_mem (by positivity) (by push_cast; linarith)

/-! ## Pairs that are accepted -/

/-- The penalty of a percentage, as long as it has not reached its limit. -/
theorem Variance.toNat_penalty {pct : Binary64} {k : ℤ}
    (h : (pct.abs.mul (Binary64.ofNat 10)).round = finite false k) (hk : 0 ≤ k) (hlimit : k < 40) :
    (penalty pct).toNat = k.toNat := by
  have hbelow : ¬(finite false 40).le (finite false (k : ℚ)) = true := by
    have : (k : ℚ) < 40 := by exact_mod_cast hlimit
    rw [le_finite]
    simpa [Binary64.value] using this
  simp only [penalty, h, forty_eq_finite, if_neg hbelow, toNat_toUInt8_finite]
  omega

/-- The confidence of a deviation, as long as its cost is in the range of a byte. -/
theorem Board.toNat_deviationConfidence {x : Binary64} {k : ℤ}
    (h : (x.mul deviationRate).round = finite false k) (hlimit : k ≤ 255) :
    (deviationConfidence x).toNat = 70 - k.toNat := by
  have hclamp := toNat_clamp (n := 255) le_rfl k
  have hweight : Strategy.qtyPrice.weight.toNat = 70 := rfl
  rw [deviationConfidence, Variance.toNat_less, hweight, h, byteLimit_eq]
  push_cast at hclamp
  rw [hclamp]
  omega

namespace Variance

variable {l : InvoiceLine} {q : PurchaseOrderLine}

theorem abs_of_eqv_zero {x : Binary64} (h : x.eqv Binary64.zero = true) :
    x.abs = Binary64.zero := by
  obtain ⟨s, rfl⟩ := magnitude_of_eqv_zero h
  rfl

/-- **The two measures agree.**  A variance that is finite is the larger of the two deviations,
whichever of them it is measured on. -/
theorem measure_abs (h : (measure l q).pct.isFinite = true) :
    (measure l q).pct.abs = (l.quantityDeviation q).max (l.priceDeviation q) := by
  unfold InvoiceLine.quantityDeviation InvoiceLine.priceDeviation
  rcases measure_cases l q with ⟨hprice, hquantity, heq⟩ | ⟨hle, heq⟩ | ⟨hle, heq⟩
  · rw [heq, abs_of_eqv_zero hprice, abs_of_eqv_zero hquantity]
    decide
  · -- the price is measured: a quantity that is not smaller has the same magnitude
    rw [heq] at h ⊢
    dsimp only at h ⊢
    obtain ⟨s, m, hp⟩ := isFinite_iff.1 h
    rw [hp] at hle ⊢
    obtain ⟨t, n, hq, hn⟩ := magnitude_le_of_abs_le hle
    rw [hq]
    rcases hn.lt_or_eq with hlt | rfl
    · simp [Binary64.max, Binary64.abs, isNaN, lt, Binary64.value, hlt]
    · simp [Binary64.max, Binary64.abs, isNaN, lt]
  · -- the quantity is measured: the price is smaller, or no number
    rw [heq] at h ⊢
    dsimp only at h ⊢
    obtain ⟨s, m, hq⟩ := isFinite_iff.1 h
    rw [hq] at hle ⊢
    rcases magnitude_lt_of_not_abs_le (Bool.eq_false_iff.1 hle) with hnan | ⟨t, n, hp, hn⟩
    · rw [isNaN_iff.1 hnan]
      rfl
    · rw [hp]
      simp [Binary64.max, Binary64.abs, isNaN, lt, Binary64.value, hn.le]

/-- A variance is measured on two percentages, so it counts hundredths as they do. -/
theorem exists_ofHundredths {s : Bool} {m : ℚ} (h : (measure l q).pct = finite s m) :
    ∃ k, finite false m = ofHundredths k := by
  rcases measure_cases l q with ⟨-, -, heq⟩ | ⟨-, heq⟩ | ⟨-, heq⟩
  · rw [heq] at h
    cases h
    exact ⟨0, by decide +kernel⟩
  · rw [heq] at h
    exact percentChange_eq_hundredths h
  · rw [heq] at h
    exact percentChange_eq_hundredths h

/-- The variance of a pair that the quantity and price strategy accepts is within its tolerance. -/
theorem measure_le_of_accepts {receipts : List GoodsReceipt}
    (haccepts : Strategy.qtyPrice.Accepts receipts l q)
    (hfinite : (measure l q).pct.isFinite = true) :
    (measure l q).pct.abs.le Strategy.qtyPrice.tolerance = true := by
  have hbelow : (Binary64.ofNat 2).lt (measure l q).pct.abs = false := by
    rw [measure_abs hfinite, Binary64.max]
    split
    · exact haccepts.2
    · split
      · exact haccepts.2
      · exact haccepts.1
  refine le_of_lt_eq_false ?_ (ofInt_isNaN 2) hbelow
  obtain ⟨s, m, hpct⟩ := isFinite_iff.1 hfinite
  rw [hpct]
  rfl

/-- So it is at most two hundred hundredths. -/
theorem exists_ofHundredths_le (hfinite : (measure l q).pct.isFinite = true)
    (hle : (measure l q).pct.abs.le (Binary64.ofNat 2) = true) :
    ∃ k ≤ 200, (measure l q).pct.abs = ofHundredths k := by
  obtain ⟨s, m, hpct⟩ := isFinite_iff.1 hfinite
  have htwo : Binary64.ofNat 2 = finite false 2 := ofNat_eq_finite (n := 2) (by norm_num)
  obtain ⟨k, hk⟩ := exists_ofHundredths hpct
  rw [hpct, htwo, Binary64.abs, le_finite] at hle
  rw [hpct]
  exact ⟨k, le_of_ofHundredths_le_two hk (by simpa [Binary64.value] using hle), hk⟩

/-- What the strategy gives a pair whose variance counts `k` hundredths. -/
theorem toNat_pairConfidence (receipts : List GoodsReceipt) {k : ℕ} (hk : k ≤ 200)
    (hfinite : (measure l q).pct.isFinite = true)
    (habs : (measure l q).pct.abs = ofHundredths k) :
    ((Strategy.qtyPrice.pairConfidence receipts l q).toNat : ℤ) =
      70 - Decimal.nearest (15 / 2 * (k / 100)) := by
  obtain ⟨h0, h15⟩ := nearest_rate_mem hk
  have hdeviation := Board.toNat_deviationConfidence (rate_ofHundredths k hk) (by omega)
  rw [← habs, measure_abs hfinite] at hdeviation
  have hraw : (Strategy.qtyPrice.pairConfidence receipts l q).toNat =
      70 - (Decimal.nearest (15 / 2 * (k / 100))).toNat := hdeviation
  omega

/-- What a variance of `k` hundredths leaves of a confidence that can pay for it. -/
theorem toNat_confidence {raw : UInt8} {pct : Binary64} {k : ℕ} (hk : k ≤ 200)
    (habs : pct.abs = ofHundredths k) (hraw : 20 ≤ raw.toNat) :
    ((confidence raw pct).toNat : ℤ) = raw.toNat - Decimal.nearest (10 * (k / 100)) := by
  obtain ⟨h0, h20⟩ := nearest_tenfold_mem hk
  have htenfold := tenfold_ofHundredths k hk
  rw [← habs] at htenfold
  rw [confidence, toNat_less, toNat_penalty htenfold h0 (by omega)]
  omega

end Variance
end Payables
