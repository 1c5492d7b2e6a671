import Payables.Proofs.Binary64.Arithmetic
import Payables.Matching.Variance

/-!
# What a variance says about its two parts

The variance of a match is the larger of two percentages, as binary64 comparison sees them.

* `measure_cases` — which of the two is measured.
* `toNat_penalty_finite`, `magnitude_lt_of_penalty` — the penalty of a percentage, and that a small
  one is only taken for a small percentage.
* `quantity_lt_of_measure`, `price_lt_of_measure` — a bound on the variance bounds the change in
  quantity, and the change in price as long as that is a number: NaN loses every comparison, so a
  price whose change is NaN leaves the word to the quantity.
-/

namespace Payables

open Binary64

namespace Variance

@[simp] theorem toNat_less (a b : UInt8) : (less a b).toNat = a.toNat - b.toNat := by
  have := a.toNat_lt
  simp only [less, UInt8.toNat_ofNat']
  omega

theorem less_le (a b : UInt8) : less a b ≤ a := by
  rw [UInt8.le_iff_toNat_le, toNat_less]
  exact Nat.sub_le _ _

theorem ten_eq_finite : Binary64.ofNat 10 = finite false 10 :=
  ofNat_eq_finite (n := 10) (by norm_num)

theorem forty_eq_finite : Binary64.ofNat maxPenalty.toNat = finite false 40 :=
  ofNat_eq_finite (n := 40) (by norm_num)

/-- The penalty of a percentage: ten points for each percent, rounded and cut off at forty. -/
theorem toNat_penalty_finite (s : Bool) (m : ℚ) :
    (penalty (finite s m)).toNat = min 40 (roundMagnitude (m * 10) + 1 / 2).floor.toNat := by
  have hmax : maxPenalty.toNat = 40 := rfl
  simp only [penalty, Binary64.abs, Binary64.mul, ten_eq_finite, forty_eq_finite]
  rcases ofMagnitude_cases (false != false) (m * 10) with ⟨-, -, heq⟩ | ⟨hbig, heq⟩
  · rw [heq]
    simp only [Binary64.round, bne_self_eq_false]
    have hlimit : (finite false 40).le
        (finite false ((roundMagnitude (m * 10) + 1 / 2).floor : ℚ)) = true ↔
        40 ≤ (roundMagnitude (m * 10) + 1 / 2).floor := by
      rw [le_finite]
      simp only [Binary64.value, Bool.false_eq_true, if_false]
      exact_mod_cast Iff.rfl
    split
    · rename_i hle
      have hk := hlimit.1 hle
      omega
    · rename_i hle
      have hk := mt hlimit.2 hle
      rw [toNat_toUInt8_finite]
      omega
  · -- an infinite product reaches the limit, and so does its magnitude
    have hk := floor_ge_of_overflow (n := 40) (by norm_num) hbig
    rw [heq]
    show maxPenalty.toNat = _
    omega

/-- A penalty of at most fifteen points is only taken below 1.55 percent. -/
theorem magnitude_lt_of_penalty {s : Bool} {m : ℚ} (h : (penalty (finite s m)).toNat ≤ 15) :
    m < 199 / 128 := by
  have hgrid : OnGrid (31 / 2) :=
    onGrid_of_mul_two_pow (n := 31) (k := 1) (by norm_num) (by norm_num) (by norm_num)
  rw [toNat_penalty_finite] at h
  have hk : (roundMagnitude (m * 10) + 1 / 2).floor < 16 := by omega
  have hlt : roundMagnitude (m * 10) < 31 / 2 := by
    have := Rat.floor_lt_iff.1 hk
    push_cast at this
    linarith
  have := hgrid.lt_of_round_lt hlt
  linarith

theorem magnitude_of_eqv_zero {x : Binary64} (h : x.eqv Binary64.zero = true) :
    ∃ s, x = finite s 0 := by
  cases x with
  | nan => simp [eqv] at h
  | infinite s => simp [eqv, Binary64.zero] at h
  | finite s m =>
    have hm : m = 0 := by
      simp only [eqv, Binary64.zero, Binary64.value] at h
      cases s <;> simpa using h
    exact ⟨s, by rw [hm]⟩

/-- A zero keeps every limit that is not negative. -/
theorem abs_le_of_eqv_zero {x limit : Binary64} (hx : x.eqv Binary64.zero = true)
    (hlimit : Binary64.zero.le limit = true) : x.abs.le limit = true := by
  obtain ⟨s, rfl⟩ := magnitude_of_eqv_zero hx
  exact hlimit

/-- What is not larger in magnitude than a finite number is finite. -/
theorem magnitude_le_of_abs_le {x : Binary64} {s : Bool} {m : ℚ}
    (h : x.abs.le (finite s m).abs = true) : ∃ t n, x = finite t n ∧ n ≤ m := by
  cases x with
  | nan => simp [Binary64.abs, le, lt, eqv] at h
  | infinite t => simp [Binary64.abs, le, lt, eqv] at h
  | finite t n =>
    refine ⟨t, n, rfl, ?_⟩
    simpa [Binary64.abs, le_finite, Binary64.value] using h

/-- What is larger in magnitude than a finite number, or cannot be compared with it. -/
theorem magnitude_lt_of_not_abs_le {x : Binary64} {s : Bool} {m : ℚ}
    (h : ¬(finite s m).abs.le x.abs = true) :
    x.isNaN = true ∨ ∃ t n, x = finite t n ∧ n < m := by
  cases x with
  | nan => exact Or.inl rfl
  | infinite t => simp [Binary64.abs, le, lt, eqv] at h
  | finite t n =>
    refine Or.inr ⟨t, n, rfl, ?_⟩
    rw [Binary64.abs, Binary64.abs, le_finite] at h
    simpa [Binary64.value] using h

variable {l : InvoiceLine} {p : PurchaseOrderLine} {s : Bool} {m b : ℚ}

/-- **What is measured**: nothing where both changes are zero, else the change in price, unless that
in quantity is larger or cannot be compared with it. -/
theorem measure_cases (l : InvoiceLine) (p : PurchaseOrderLine) :
    ((percentChange l.unitPrice p.unitPrice).eqv Binary64.zero = true ∧
        (percentChange l.quantity p.quantity).eqv Binary64.zero = true ∧ measure l p = none) ∨
      ((percentChange l.quantity p.quantity).abs.le (percentChange l.unitPrice p.unitPrice).abs
          = true ∧
        measure l p = ⟨.price, percentChange l.unitPrice p.unitPrice⟩) ∨
      ((percentChange l.quantity p.quantity).abs.le (percentChange l.unitPrice p.unitPrice).abs
          = false ∧
        measure l p = ⟨.quantity, percentChange l.quantity p.quantity⟩) := by
  unfold measure
  dsimp only
  split
  · rename_i hzero
    obtain ⟨hprice, hquantity⟩ := Bool.and_eq_true_iff.1 hzero
    exact Or.inl ⟨hprice, hquantity, rfl⟩
  · split
    · rename_i hle
      exact Or.inr (Or.inl ⟨hle, rfl⟩)
    · rename_i hle
      exact Or.inr (Or.inr ⟨by simpa using hle, rfl⟩)

/-- The change in quantity is a number no larger than the variance. -/
theorem quantity_lt_of_measure (hb : 0 < b) (h : (measure l p).pct = finite s m) (hm : m < b) :
    ∃ t n, percentChange l.quantity p.quantity = finite t n ∧ n < b := by
  rcases measure_cases l p with ⟨-, hzero, -⟩ | ⟨hle, heq⟩ | ⟨-, heq⟩
  · obtain ⟨t, ht⟩ := magnitude_of_eqv_zero hzero
    exact ⟨t, 0, ht, hb⟩
  · rw [heq] at h
    dsimp only at h
    rw [h] at hle
    obtain ⟨t, n, hq, hn⟩ := magnitude_le_of_abs_le hle
    exact ⟨t, n, hq, hn.trans_lt hm⟩
  · rw [heq] at h
    exact ⟨s, m, h, hm⟩

/-- The change in price is no larger than the variance either, unless it is NaN. -/
theorem price_lt_of_measure (hb : 0 < b) (h : (measure l p).pct = finite s m) (hm : m < b)
    (hnum : (percentChange l.unitPrice p.unitPrice).isNaN = false) :
    ∃ t n, percentChange l.unitPrice p.unitPrice = finite t n ∧ n < b := by
  rcases measure_cases l p with ⟨hzero, -, -⟩ | ⟨-, heq⟩ | ⟨hle, heq⟩
  · obtain ⟨t, ht⟩ := magnitude_of_eqv_zero hzero
    exact ⟨t, 0, ht, hb⟩
  · rw [heq] at h
    exact ⟨s, m, h, hm⟩
  · rw [heq] at h
    dsimp only at h
    rw [h] at hle
    rcases magnitude_lt_of_not_abs_le (Bool.eq_false_iff.1 hle) with hnan | ⟨t, n, hp, hn⟩
    · rw [hnan] at hnum
      cases hnum
    · exact ⟨t, n, hp, hn.trans hm⟩

/-- A price whose change is NaN has no part in the variance. -/
theorem measure_of_price_isNaN
    (h : (percentChange l.unitPrice p.unitPrice).isNaN = true) :
    measure l p = ⟨.quantity, percentChange l.quantity p.quantity⟩ := by
  cases hp : percentChange l.unitPrice p.unitPrice with
  | nan => simp [measure, hp, eqv, Binary64.abs, le_nan]
  | infinite s =>
    rw [hp] at h
    cases h
  | finite s m =>
    rw [hp] at h
    cases h

end Variance
end Payables
