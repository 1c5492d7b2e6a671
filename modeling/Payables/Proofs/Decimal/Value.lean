import Mathlib
import Payables.Decimal.Basic

/-!
# The values of decimals

Arithmetic on decimals keeps scales that the numbers do not need; their values are plain rational
arithmetic.  Each operation is described here by what it does to `Decimal.value`, and proofs about
amounts and prices go through these equations.

* `value_add`, `value_sub`, `value_mul`, `value_sum` — sums and products lose nothing.
* `sum_perm` — a sum keeps the most places of its terms, so it is the same decimal in any order.
* `value_normalize` — trailing zeros carry no value.
* `value_round` — rounding takes the nearest multiple of the last place, a half going away from
  zero.
-/

namespace Payables.Decimal

theorem tenTo_eq (n : ℕ) : tenTo n = 10 ^ n := rfl

theorem ten_zpow_pos (e : ℤ) : (0 : ℚ) < 10 ^ e := zpow_pos (by norm_num) e

theorem ten_zpow_add (e f : ℤ) : (10 : ℚ) ^ (e + f) = 10 ^ e * 10 ^ f :=
  zpow_add₀ (by norm_num) e f

theorem value_mk (c s : ℤ) : value ⟨c, s⟩ = c * (10 : ℚ) ^ (-s) := rfl

@[simp] theorem value_ofInt (n : ℤ) : (ofInt n).value = n := by
  simp [ofInt, value_mk]

/-- A decimal is zero exactly where its coefficient is. -/
theorem value_eq_zero {d : Decimal} : d.value = 0 ↔ d.coeff = 0 := by
  simp [value, (ten_zpow_pos _).ne']

theorem value_neg_iff {d : Decimal} : d.value < 0 ↔ d.coeff < 0 := by
  rw [value, ← not_le, ← not_le, mul_nonneg_iff_of_pos_right (ten_zpow_pos _), Int.cast_nonneg_iff]

theorem isZero_iff {d : Decimal} : d.isZero = true ↔ d.value = 0 := by
  simp [isZero, value_eq_zero]

theorem eqv_iff {a b : Decimal} : a.eqv b = true ↔ a.value = b.value := by
  simp [eqv]

theorem abs_value (d : Decimal) : |d.value| = d.coeff.natAbs * (10 : ℚ) ^ (-d.scale) := by
  rw [value, abs_mul, abs_of_pos (ten_zpow_pos _), Nat.cast_natAbs, Int.cast_abs]

/-- Writing a decimal with more places keeps its value. -/
theorem coeffAt_mul {d : Decimal} {s : ℤ} (h : d.scale ≤ s) :
    (d.coeffAt s : ℚ) * 10 ^ (-s) = d.value := by
  unfold coeffAt
  split
  · rename_i hz
    simp [value_eq_zero.2 hz]
  · have hs : (((s - d.scale).toNat : ℕ) : ℤ) = s - d.scale := Int.toNat_of_nonneg (by omega)
    have hpow : ((tenTo (s - d.scale).toNat : ℕ) : ℚ) = 10 ^ (s - d.scale) := by
      rw [tenTo_eq, Nat.cast_pow, ← zpow_natCast, hs]
      norm_num
    rw [Int.cast_mul, Int.cast_natCast, hpow, mul_assoc, ← ten_zpow_add, value]
    congr 2
    ring

theorem value_add (a b : Decimal) : (a.add b).value = a.value + b.value := by
  simp only [add, value_mk]
  rw [Int.cast_add, add_mul, coeffAt_mul (le_max_left _ _), coeffAt_mul (le_max_right _ _)]

theorem value_sub (a b : Decimal) : (a.sub b).value = a.value - b.value := by
  simp only [sub, value_mk]
  rw [Int.cast_sub, sub_mul, coeffAt_mul (le_max_left _ _), coeffAt_mul (le_max_right _ _)]

theorem value_hundredfold (a : Decimal) : a.hundredfold.value = 100 * a.value := by
  unfold hundredfold
  split
  · rename_i h
    rw [eqv_iff, value_ofInt] at h
    rw [h, value_ofInt]
    norm_num
  · rw [value_mk, value]
    push_cast
    ring

theorem value_abs (a : Decimal) : a.abs.value = |a.value| := by
  rw [abs_value]
  simp [abs, value_mk]

/-- Trailing zeros carry no value. -/
theorem value_stripZeros (fuel : ℕ) (c s : ℤ) : (stripZeros fuel c s).value = c * 10 ^ (-s) := by
  induction fuel generalizing c s with
  | zero => rfl
  | succ fuel ih =>
    simp only [stripZeros]
    split
    · rename_i hc
      have hsplit : c = c / 10 * 10 := by omega
      rw [ih, neg_sub, sub_eq_add_neg, add_comm, ten_zpow_add]
      calc ((c / 10 : ℤ) : ℚ) * (10 ^ (-s) * 10 ^ (1 : ℤ))
          = ((c / 10 * 10 : ℤ) : ℚ) * 10 ^ (-s) := by
            push_cast
            ring
        _ = c * 10 ^ (-s) := by rw [← hsplit]
    · rfl

theorem value_normalize (a : Decimal) : a.normalize.value = a.value := by
  unfold normalize
  split
  · rename_i hc
    rw [value_eq_zero.2 hc, value_eq_zero]
    rfl
  · rw [value_stripZeros, value]

theorem value_mul (a b : Decimal) : (a.mul b).value = a.value * b.value := by
  unfold mul
  split
  · rename_i ha
    rw [eqv_iff, value_ofInt] at ha
    rw [value_normalize, ha, Int.cast_one, one_mul]
  · split
    · rename_i hb
      rw [eqv_iff, value_ofInt] at hb
      rw [value_normalize, hb, Int.cast_one, mul_one]
    · rw [value_mk, value, value, neg_add, ten_zpow_add, Int.cast_mul]
      ring

theorem value_sum (ds : List Decimal) : (sum ds).value = (ds.map value).sum := by
  have hfold : ∀ (acc : Decimal), (ds.foldl add acc).value = acc.value + (ds.map value).sum := by
    induction ds with
    | nil => simp
    | cons d ds ih =>
      intro acc
      rw [List.foldl_cons, ih, value_add, List.map_cons, List.sum_cons, add_assoc]
  rw [sum, hfold]
  simp [zero]

/-- Decimals of one value with the same number of places are one. -/
theorem eq_of_value_eq {a b : Decimal} (hscale : a.scale = b.scale) (h : a.value = b.value) :
    a = b := by
  obtain ⟨c, s⟩ := a
  obtain ⟨c', s'⟩ := b
  obtain rfl : s = s' := hscale
  have hcoeff : (c : ℚ) = c' := mul_right_cancel₀ (ten_zpow_pos (-s)).ne' h
  rw [Int.cast_injective hcoeff]

/-- The order in which decimals are added does not matter, not even to the places. -/
theorem add_right_comm (a b c : Decimal) : (a.add b).add c = (a.add c).add b := by
  refine eq_of_value_eq ?_ ?_
  · exact max_right_comm a.scale b.scale c.scale
  · simp only [value_add]
    ring

theorem sum_perm {ds ds' : List Decimal} (h : ds.Perm ds') : sum ds = sum ds' :=
  have : RightCommutative add := ⟨add_right_comm⟩
  h.foldl_eq zero

/-! ## Rounding -/

/-- The nearest integer, a half going away from zero. -/
def nearest (q : ℚ) : ℤ := if q < 0 then -⌊-q + 1 / 2⌋ else ⌊q + 1 / 2⌋

theorem nearest_intCast (n : ℤ) : nearest n = n := by
  have hfloor : ∀ k : ℤ, ⌊(k : ℚ) + 1 / 2⌋ = k := by
    intro k
    rw [Int.floor_intCast_add]
    norm_num
  unfold nearest
  split
  · rw [← Int.cast_neg, hfloor, neg_neg]
  · rw [hfloor]

/-- Rounding does not leave a range from zero to a whole number. -/
theorem nearest_mem {q : ℚ} {n : ℤ} (h0 : 0 ≤ q) (h : q ≤ n) : 0 ≤ nearest q ∧ nearest q ≤ n := by
  rw [nearest, if_neg (not_lt.2 h0)]
  constructor
  · exact Int.floor_nonneg.2 (by linarith)
  · have hlt : ⌊q + 1 / 2⌋ < n + 1 := Int.floor_lt.2 (by push_cast; linarith)
    omega

/-- The quotient of natural numbers, rounded by its remainder. -/
theorem floor_div_add_half (m : ℕ) {u : ℕ} (hu : 0 < u) :
    ⌊(m : ℚ) / u + 1 / 2⌋ = ((m / u + if u ≤ 2 * (m % u) then 1 else 0 : ℕ) : ℤ) := by
  have hu0 : (u : ℚ) ≠ 0 := by exact_mod_cast hu.ne'
  have hfrac : (m : ℚ) / u + 1 / 2 = ((2 * m + u : ℕ) : ℚ) / (2 * u : ℕ) := by
    push_cast
    field_simp
  have hnat : (2 * m + u) / (2 * u) = m / u + if u ≤ 2 * (m % u) then 1 else 0 := by
    have hsplit : 2 * m + u = (2 * (m % u) + u) + 2 * u * (m / u) := by
      have := Nat.div_add_mod m u
      nlinarith
    rw [hsplit, Nat.add_mul_div_left _ _ (by omega), add_comm]
    congr 1
    have hlt := Nat.mod_lt m hu
    split
    · rw [Nat.div_eq_iff (by omega)]
      omega
    · rw [Nat.div_eq_of_lt (by omega)]
  rw [hfrac, Rat.floor_natCast_div_natCast, ← hnat, Int.natCast_div]

/-- **Rounding to places** looks at the number only: it is the nearest multiple of the last
place. -/
theorem value_round (a : Decimal) (places : ℤ) :
    (a.round places).value = nearest (a.value * 10 ^ places) * 10 ^ (-places) := by
  unfold round
  split
  · -- no place is lost
    rename_i hle
    obtain ⟨n, hn⟩ := Int.eq_ofNat_of_zero_le (sub_nonneg.2 hle)
    have hint : a.value * 10 ^ places = ((a.coeff * 10 ^ n : ℤ) : ℚ) := by
      rw [value, mul_assoc, ← ten_zpow_add, neg_add_eq_sub, hn]
      push_cast
      rw [zpow_natCast]
    have hinv : (10 : ℚ) ^ places * 10 ^ (-places) = 1 := by
      rw [← ten_zpow_add, add_neg_cancel, zpow_zero]
    rw [hint, nearest_intCast, ← hint, mul_assoc, hinv, mul_one]
  · rename_i hlt
    obtain ⟨n, hn⟩ := Int.eq_ofNat_of_zero_le (sub_nonneg.2 (not_le.1 hlt).le)
    have hunit : tenTo (a.scale - places).toNat = 10 ^ n := by
      rw [hn]
      rfl
    have hvalue : a.value * 10 ^ places = a.coeff / ((10 ^ n : ℕ) : ℚ) := by
      have hexp : -a.scale + places = -(n : ℤ) := by omega
      rw [value, mul_assoc, ← ten_zpow_add, hexp, zpow_neg, zpow_natCast, div_eq_mul_inv]
      push_cast
      rfl
    have hpos : 0 < 10 ^ n := by positivity
    have hpos' : (0 : ℚ) < ((10 ^ n : ℕ) : ℚ) := by exact_mod_cast hpos
    rw [hvalue, hunit, value_mk]
    congr 2
    unfold nearest
    by_cases hneg : a.coeff < 0
    · have habs : ((a.coeff.natAbs : ℕ) : ℚ) = -a.coeff := by
        rw [Nat.cast_natAbs, abs_of_neg hneg, Int.cast_neg]
      have hdiv : (a.coeff : ℚ) / ((10 ^ n : ℕ) : ℚ) < 0 :=
        div_neg_of_neg_of_pos (by exact_mod_cast hneg) hpos'
      rw [if_pos hneg, if_pos hdiv, ← neg_div, ← habs, floor_div_add_half _ hpos]
    · have habs : ((a.coeff.natAbs : ℕ) : ℚ) = a.coeff := by
        rw [Nat.cast_natAbs, abs_of_nonneg (not_lt.1 hneg)]
      have hdiv : ¬(a.coeff : ℚ) / ((10 ^ n : ℕ) : ℚ) < 0 :=
        not_lt.2 (div_nonneg (by exact_mod_cast not_lt.1 hneg) hpos'.le)
      rw [if_neg hneg, if_neg hdiv, ← habs, floor_div_add_half _ hpos]

end Payables.Decimal
