import Payables.Proofs.Decimal.Value
import Payables.Decimal.Quotient

/-!
# How exact a quotient is

A quotient is exact as long as the remainder vanishes in time; otherwise it has a hundred digits
or more and only its last one is rounded.  Either way it misses the rational quotient by at most
the fraction `10 ^ (-99)` of itself (`abs_value_div_sub_le`).

The long division keeps the value `LongDivision.value` of the state (`value_run`): the digits so
far together with what the remainder still stands for.  It adds no digit beyond the hundredth,
which bounds the quotient of numbers of given lengths (`div_bounds`).
-/

namespace Payables.Decimal

/-! ## Counting digits -/

theorem lt_pow_digitCount (n : ℕ) : n < 10 ^ digitCount n :=
  (Nat.length_toDigits_le_iff (by norm_num) Nat.length_toDigits_pos).1 le_rfl

theorem pow_digitCount_le {n : ℕ} (hn : 0 < n) : 10 ^ (digitCount n - 1) ≤ n := by
  rcases Nat.eq_zero_or_pos (digitCount n - 1) with h | h
  · rw [h, pow_zero]
    exact hn
  · by_contra hlt
    have hle := (Nat.length_toDigits_le_iff (by norm_num) h).2 (not_le.1 hlt)
    have : digitCount n ≤ digitCount n - 1 := hle
    omega

/-- The leading shift makes the dividend at least as large as the divisor. -/
theorem le_mul_pow_leadingShift {a : ℕ} (ha : 0 < a) (b : ℕ) :
    b ≤ a * 10 ^ leadingShift a b := by
  unfold leadingShift
  by_cases hle : b ≤ a
  · rw [if_pos hle, pow_zero, mul_one]
    exact hle
  · rw [if_neg hle]
    show b ≤ a * 10 ^ (if b ≤ a * tenTo (digitCount b - digitCount a) then _ else _)
    by_cases hshort : b ≤ a * tenTo (digitCount b - digitCount a)
    · rw [if_pos hshort, ← tenTo_eq]
      exact hshort
    · rw [if_neg hshort]
      have hpow : digitCount b ≤ digitCount a - 1 + (digitCount b - digitCount a + 1) := by omega
      calc b ≤ 10 ^ digitCount b := (lt_pow_digitCount b).le
        _ ≤ 10 ^ (digitCount a - 1 + (digitCount b - digitCount a + 1)) :=
            Nat.pow_le_pow_right (by norm_num) hpow
        _ = 10 ^ (digitCount a - 1) * 10 ^ (digitCount b - digitCount a + 1) := pow_add _ _ _
        _ ≤ a * 10 ^ (digitCount b - digitCount a + 1) :=
            Nat.mul_le_mul_right _ (pow_digitCount_le ha)

/-! ## The state of a long division -/

namespace LongDivision

/-- What a state stands for: its digits and the share of the divisor `b` that is left. -/
def value (b : ℕ) (s : LongDivision) : ℚ :=
  (s.quotient + s.remainder / (10 * b)) * 10 ^ (-s.scale)

/-- One more digit leaves the value as it is. -/
theorem value_next {b : ℕ} (hb : 0 < b) (s : LongDivision) :
    value b ⟨s.quotient * 10 + s.remainder / b, s.scale + 1, s.remainder % b * 10⟩ = s.value b := by
  have hb0 : (b : ℚ) ≠ 0 := by exact_mod_cast hb.ne'
  have hdiv : ((s.remainder / b : ℕ) : ℚ) * b + (s.remainder % b : ℕ) = s.remainder := by
    have := Nat.div_add_mod' s.remainder b
    exact_mod_cast this
  have hscale : (10 : ℚ) ^ (-(s.scale + 1)) = 10 ^ (-s.scale) / 10 := by
    rw [neg_add, ← sub_eq_add_neg, zpow_sub_one₀ (by norm_num)]
    rfl
  simp only [value, hscale]
  rw [← hdiv]
  push_cast
  field_simp
  ring

/-- Appending digits leaves the value as it is. -/
theorem value_run {b : ℕ} (hb : 0 < b) (fuel : ℕ) (s : LongDivision) :
    (run b fuel s).value b = s.value b := by
  induction fuel generalizing s with
  | zero => rfl
  | succ fuel ih =>
    simp only [run]
    split
    · rfl
    · rw [ih, value_next hb]

/-- The remainder stays below ten times the divisor. -/
theorem remainder_run_lt {b : ℕ} (hb : 0 < b) (fuel : ℕ) {s : LongDivision}
    (h : s.remainder < 10 * b) : (run b fuel s).remainder < 10 * b := by
  induction fuel generalizing s with
  | zero => exact h
  | succ fuel ih =>
    simp only [run]
    split
    · exact h
    · have := Nat.mod_lt s.remainder hb
      exact ih (show s.remainder % b * 10 < 10 * b by omega)

/-- A division that does not come out even uses all its digits. -/
theorem quotient_run_ge {b : ℕ} (fuel : ℕ) (s : LongDivision)
    (h : (run b fuel s).remainder ≠ 0) :
    s.quotient * 10 ^ fuel ≤ (run b fuel s).quotient := by
  induction fuel generalizing s with
  | zero => simp [run]
  | succ fuel ih =>
    simp only [run] at h ⊢
    split at h
    · rename_i hz
      exact absurd hz h
    · rename_i hz
      rw [if_neg hz]
      refine le_trans ?_ (ih _ h)
      rw [pow_succ', ← mul_assoc]
      exact Nat.mul_le_mul_right _ (Nat.le_add_right _ _)

/-! ### Where a division starts -/

/-- The first state of the division of `a` by `b`: the leading digits are there. -/
def start (a b : ℕ) (scale : ℤ) : LongDivision :=
  let n := a * 10 ^ leadingShift a b
  ⟨n / b, scale + leadingShift a b, n % b * 10⟩

/-- The last state, with a hundred digits unless the division comes out even. -/
def finish (a b : ℕ) (scale : ℤ) : LongDivision :=
  (start a b scale).run b (quotientDigits - digitCount (start a b scale).quotient)

/-- The first state stands for the exact quotient. -/
theorem value_start {b : ℕ} (hb : 0 < b) (a : ℕ) (scale : ℤ) :
    (start a b scale).value b = a / b * 10 ^ (-scale) := by
  have hb0 : (b : ℚ) ≠ 0 := by exact_mod_cast hb.ne'
  simp only [start]
  set k := leadingShift a b
  have hmod : ((a * 10 ^ k / b : ℕ) : ℚ) * b + (a * 10 ^ k % b : ℕ) = a * 10 ^ k := by
    have := Nat.div_add_mod' (a * 10 ^ k) b
    exact_mod_cast this
  have hscale : (10 : ℚ) ^ (-(scale + (k : ℤ))) * 10 ^ k = 10 ^ (-scale) := by
    rw [← zpow_natCast (10 : ℚ) k, ← ten_zpow_add]
    congr 1
    ring
  calc value b ⟨a * 10 ^ k / b, scale + k, a * 10 ^ k % b * 10⟩
      = ((a * 10 ^ k / b : ℕ) * b + (a * 10 ^ k % b : ℕ) : ℚ) / b
          * 10 ^ (-(scale + (k : ℤ))) := by
        simp only [value]
        push_cast
        field_simp
    _ = a / b * (10 ^ (-(scale + (k : ℤ))) * 10 ^ k) := by
        rw [hmod]
        ring
    _ = a / b * 10 ^ (-scale) := by rw [hscale]

theorem value_finish {b : ℕ} (hb : 0 < b) (a : ℕ) (scale : ℤ) :
    (finish a b scale).value b = a / b * 10 ^ (-scale) := by
  rw [finish, value_run hb, value_start hb]

theorem remainder_finish_lt {b : ℕ} (hb : 0 < b) (a : ℕ) (scale : ℤ) :
    (finish a b scale).remainder < 10 * b := by
  apply remainder_run_lt hb
  have := Nat.mod_lt (a * 10 ^ leadingShift a b) hb
  show a * 10 ^ leadingShift a b % b * 10 < 10 * b
  omega

/-- A division that does not come out even ends with a hundred digits. -/
theorem quotient_finish_ge {a b : ℕ} (ha : 0 < a) (hb : 0 < b) (scale : ℤ)
    (h : (finish a b scale).remainder ≠ 0) : 10 ^ 99 ≤ (finish a b scale).quotient := by
  set q := (start a b scale).quotient with hq
  have hone : 0 < q := Nat.div_pos (le_mul_pow_leadingShift ha b) hb
  have hdigits : 0 < digitCount q := Nat.length_toDigits_pos
  calc 10 ^ 99 ≤ 10 ^ (digitCount q - 1 + (quotientDigits - digitCount q)) := by
        refine Nat.pow_le_pow_right (by norm_num) ?_
        simp only [quotientDigits]
        omega
    _ = 10 ^ (digitCount q - 1) * 10 ^ (quotientDigits - digitCount q) := pow_add _ _ _
    _ ≤ q * 10 ^ (quotientDigits - digitCount q) :=
        Nat.mul_le_mul_right _ (pow_digitCount_le hone)
    _ ≤ (finish a b scale).quotient := quotient_run_ge _ _ h

end LongDivision

/-! ## The quotient -/

/-- The rounding of the last digit, with the remainder it is taken from. -/
theorem abs_up_sub_le {b r up : ℕ} (hb : 0 < b) (hr : r < 10 * b) (hup : up ≤ 1) :
    |(up : ℚ) - r / (10 * b)| ≤ 1 := by
  have hb0 : (0 : ℚ) < 10 * b := by
    have : (0 : ℚ) < b := by exact_mod_cast hb
    linarith
  have h0 : (0 : ℚ) ≤ r / (10 * b) := div_nonneg (Nat.cast_nonneg r) hb0.le
  have h1 : (r : ℚ) / (10 * b) ≤ 1 := (div_le_one hb0).2 (by exact_mod_cast hr.le)
  have h2 : (up : ℚ) ≤ 1 := by exact_mod_cast hup
  have h3 : (0 : ℚ) ≤ up := Nat.cast_nonneg up
  rw [abs_le]
  constructor <;> linarith

/-- A quotient is the last state of its division, its last digit rounded up or not; one that comes
out even is not rounded. -/
theorem divideCoeffs_eq (a b : ℕ) (scale : ℤ) :
    ∃ up : ℕ, up ≤ 1 ∧ ((LongDivision.finish a b scale).remainder = 0 → up = 0) ∧
      divideCoeffs a b scale =
        ⟨(((LongDivision.finish a b scale).quotient + up : ℕ) : ℤ),
          (LongDivision.finish a b scale).scale⟩ := by
  refine ⟨_, ?_, ?_, rfl⟩
  · split <;> omega
  · intro hzero
    exact if_neg fun h => h.1 hzero

/-- The quotient of two coefficients misses the rational one by at most `10 ^ (-99)` of itself. -/
theorem abs_value_divideCoeffs_sub_le {a b : ℕ} (ha : 0 < a) (hb : 0 < b) (scale : ℤ) :
    |(divideCoeffs a b scale).value - a / b * 10 ^ (-scale)|
      ≤ (divideCoeffs a b scale).value * (1 / 10 ^ 99) := by
  obtain ⟨up, hup, heven, heq⟩ := divideCoeffs_eq a b scale
  have hend := LongDivision.value_finish hb a scale
  have hrem := LongDivision.remainder_finish_lt hb a scale
  have hge := LongDivision.quotient_finish_ge ha hb scale
  generalize LongDivision.finish a b scale = last at heven heq hend hrem hge
  have hdiff : (divideCoeffs a b scale).value - a / b * 10 ^ (-scale)
      = ((up : ℚ) - last.remainder / (10 * b)) * 10 ^ (-last.scale) := by
    rw [heq, ← hend, value_mk, LongDivision.value]
    push_cast
    ring
  have hscale0 := ten_zpow_pos (-last.scale)
  rw [hdiff, abs_mul, abs_of_pos hscale0, heq, value_mk, Int.cast_natCast]
  rcases Nat.eq_zero_or_pos last.remainder with hzero | hpos
  · -- the division came out even
    rw [heven hzero, hzero]
    simp only [Nat.cast_zero, zero_div, sub_zero, abs_zero, zero_mul, add_zero]
    positivity
  · -- a hundred digits have been used
    have hlarge : (1 : ℚ) ≤ ((last.quotient + up : ℕ) : ℚ) * (1 / 10 ^ 99) := by
      rw [mul_one_div, le_div_iff₀ (by positivity), one_mul]
      exact_mod_cast (hge hpos.ne').trans (Nat.le_add_right _ _)
    calc |(up : ℚ) - last.remainder / (10 * b)| * 10 ^ (-last.scale)
        ≤ 1 * 10 ^ (-last.scale) :=
          mul_le_mul_of_nonneg_right (abs_up_sub_le hb hrem hup) hscale0.le
      _ ≤ ((last.quotient + up : ℕ) : ℚ) * (1 / 10 ^ 99) * 10 ^ (-last.scale) :=
          mul_le_mul_of_nonneg_right hlarge hscale0.le
      _ = ((last.quotient + up : ℕ) : ℚ) * 10 ^ (-last.scale) * (1 / 10 ^ 99) := by ring

/-- Factors of one sign have a quotient that is not negative. -/
theorem div_value_nonneg {a b : Decimal} (h : a.coeff < 0 ↔ b.coeff < 0) :
    0 ≤ a.value / b.value := by
  rw [← value_neg_iff, ← value_neg_iff] at h
  rcases lt_or_ge a.value 0 with ha | ha
  · exact (div_pos_of_neg_of_neg ha (h.1 ha)).le
  · exact div_nonneg ha (not_lt.1 fun hb => absurd (h.2 hb) (not_lt.2 ha))

/-- Factors of two signs have a quotient that is not positive. -/
theorem div_value_nonpos {a b : Decimal} (h : ¬(a.coeff < 0 ↔ b.coeff < 0)) :
    a.value / b.value ≤ 0 := by
  rw [← value_neg_iff, ← value_neg_iff] at h
  rcases lt_or_ge a.value 0 with ha | ha
  · exact div_nonpos_of_nonpos_of_nonneg ha.le (not_lt.1 fun hb => h ⟨fun _ => hb, fun _ => ha⟩)
  · refine div_nonpos_of_nonneg_of_nonpos ha (le_of_not_gt fun hb => h ?_)
    exact ⟨fun ha' => absurd ha' (not_lt.2 ha), fun hb' => absurd hb' (not_lt.2 hb.le)⟩

/-- Decimals of one coefficient differ by a power of ten. -/
theorem value_one_of_coeff_eq {a b : Decimal} (h : a.coeff = b.coeff) (hb : b.coeff ≠ 0) :
    (⟨1, a.scale - b.scale⟩ : Decimal).value = a.value / b.value := by
  have hc : (b.coeff : ℚ) ≠ 0 := by exact_mod_cast hb
  rw [value_mk, value, value, h, mul_div_mul_left _ _ hc, ← zpow_sub₀ (by norm_num)]
  rw [Int.cast_one, one_mul]
  congr 1
  ring

/-- The magnitudes of two decimals have the magnitude of their quotient. -/
theorem natAbs_div_natAbs (a b : Decimal) :
    (a.coeff.natAbs : ℚ) / b.coeff.natAbs * 10 ^ (-(a.scale - b.scale)) = |a.value / b.value| := by
  have hpow : (10 : ℚ) ^ (-(a.scale - b.scale)) = 10 ^ (-a.scale) / 10 ^ (-b.scale) := by
    rw [← zpow_sub₀ (by norm_num)]
    congr 1
    ring
  rw [abs_div, abs_value, abs_value, hpow, div_mul_div_comm]

/-- The quotient of two decimals misses the rational quotient by at most `10 ^ (-99)` of itself. -/
theorem abs_value_div_sub_le (a b : Decimal) (hb : b.value ≠ 0) :
    |(a.div b).value - a.value / b.value| ≤ |(a.div b).value| * (1 / 10 ^ 99) := by
  have hbc : b.coeff ≠ 0 := fun h => hb (value_eq_zero.2 h)
  have hexact {q : Decimal} (h : q.value = a.value / b.value) :
      |q.value - a.value / b.value| ≤ |q.value| * (1 / 10 ^ 99) := by
    rw [h, sub_self, abs_zero]
    positivity
  unfold div
  split
  · -- a dividend of zero, or a divisor of one
    rename_i h
    refine hexact ?_
    rcases Bool.or_eq_true_iff.1 h with h | h
    · have ha : a.value = 0 := value_eq_zero.2 (of_decide_eq_true h)
      rw [ha, zero_div]
    · rw [eqv_iff, value_ofInt] at h
      rw [h, Int.cast_one, div_one]
  rename_i hne
  have hac : a.coeff ≠ 0 := by
    intro h
    simp [h] at hne
  split
  · rename_i heq
    exact hexact (value_one_of_coeff_eq heq hbc)
  · -- the magnitudes are divided, and the sign is put back in front
    have hq := abs_value_divideCoeffs_sub_le (Int.natAbs_pos.2 hac) (Int.natAbs_pos.2 hbc)
      (a.scale - b.scale)
    rw [natAbs_div_natAbs] at hq
    dsimp only
    generalize divideCoeffs a.coeff.natAbs b.coeff.natAbs (a.scale - b.scale) = q at hq ⊢
    have hq0 : 0 ≤ q.value := by
      have hnonneg := (abs_nonneg _).trans hq
      exact nonneg_of_mul_nonneg_left hnonneg (by positivity)
    by_cases hsign : a.coeff < 0 ↔ b.coeff < 0
    · rw [if_pos (by simpa using hsign), abs_of_nonneg hq0]
      rwa [abs_of_nonneg (div_value_nonneg hsign)] at hq
    · have hval : (⟨-q.coeff, q.scale⟩ : Decimal).value = -q.value := by
        rw [value_mk, value, Int.cast_neg, neg_mul]
      rw [if_neg (by simpa using hsign), hval, abs_neg, abs_of_nonneg hq0]
      rw [abs_of_nonpos (div_value_nonpos hsign)] at hq
      calc |-q.value - a.value / b.value| = |q.value - -(a.value / b.value)| := by
            rw [← abs_neg]
            congr 1
            ring
        _ ≤ q.value * (1 / 10 ^ 99) := hq

/-! ## How long a quotient is -/

theorem digitCount_le {n k : ℕ} (hn : n < 10 ^ k) (hk : k ≠ 0) : digitCount n ≤ k :=
  (Nat.length_toDigits_le_iff (by norm_num) (Nat.pos_of_ne_zero hk)).2 hn

theorem leadingShift_le (a b : ℕ) : leadingShift a b ≤ digitCount b := by
  have ha : 0 < digitCount a := Nat.length_toDigits_pos
  have hb : 0 < digitCount b := Nat.length_toDigits_pos
  unfold leadingShift
  split
  · exact Nat.zero_le _
  · dsimp only
    split
    · exact Nat.sub_le _ _
    · omega

namespace LongDivision

/-- Every digit makes the quotient at most ten times as large. -/
theorem quotient_run_lt {b : ℕ} (hb : 0 < b) (fuel : ℕ) {s : LongDivision}
    (h : s.remainder < 10 * b) :
    (run b fuel s).quotient < (s.quotient + 1) * 10 ^ fuel := by
  induction fuel generalizing s with
  | zero => simp [run]
  | succ fuel ih =>
    simp only [run]
    split
    · calc s.quotient < (s.quotient + 1) * 1 := by omega
        _ ≤ (s.quotient + 1) * 10 ^ (fuel + 1) :=
            Nat.mul_le_mul_left _ (Nat.one_le_pow _ _ (by norm_num))
    · have hdigit : s.remainder / b < 10 := by
        rw [Nat.div_lt_iff_lt_mul hb]
        exact h
      have hnext : s.remainder % b * 10 < 10 * b := by
        have := Nat.mod_lt s.remainder hb
        omega
      calc (run b fuel ⟨s.quotient * 10 + s.remainder / b, s.scale + 1,
              s.remainder % b * 10⟩).quotient
          < (s.quotient * 10 + s.remainder / b + 1) * 10 ^ fuel := ih hnext
        _ ≤ ((s.quotient + 1) * 10) * 10 ^ fuel := Nat.mul_le_mul_right _ (by omega)
        _ = (s.quotient + 1) * 10 ^ (fuel + 1) := by rw [pow_succ, mul_assoc, mul_comm 10]

/-- Every digit is one more place. -/
theorem scale_run_le (b fuel : ℕ) (s : LongDivision) :
    s.scale ≤ (run b fuel s).scale ∧ (run b fuel s).scale ≤ s.scale + fuel := by
  induction fuel generalizing s with
  | zero => simp [run]
  | succ fuel ih =>
    simp only [run]
    split
    · omega
    · obtain ⟨hlow, hhigh⟩ := ih ⟨s.quotient * 10 + s.remainder / b, s.scale + 1,
        s.remainder % b * 10⟩
      dsimp only at hlow hhigh
      omega

/-- The finished quotient of numbers of up to `m` and `n` digits. -/
theorem quotient_finish_lt {a b m n : ℕ} (hb : 0 < b) (ham : a < 10 ^ m)
    (hk : leadingShift a b ≤ n) (hmn : 100 ≤ m + n) (scale : ℤ) :
    (finish a b scale).quotient < 10 ^ (m + n) := by
  set first := start a b scale with hfirst
  have hq : first.quotient < 10 ^ (m + n) := by
    calc first.quotient ≤ a * 10 ^ leadingShift a b := Nat.div_le_self _ _
      _ < 10 ^ m * 10 ^ n :=
          Nat.mul_lt_mul_of_lt_of_le ham (Nat.pow_le_pow_right (by norm_num) hk) (by positivity)
      _ = 10 ^ (m + n) := (pow_add _ _ _).symm
  have hdigits := digitCount_le hq (by omega)
  have hrem : first.remainder < 10 * b := by
    have := Nat.mod_lt (a * 10 ^ leadingShift a b) hb
    show a * 10 ^ leadingShift a b % b * 10 < 10 * b
    omega
  calc (finish a b scale).quotient
      < (first.quotient + 1) * 10 ^ (quotientDigits - digitCount first.quotient) :=
        quotient_run_lt hb _ hrem
    _ ≤ 10 ^ digitCount first.quotient * 10 ^ (quotientDigits - digitCount first.quotient) :=
        Nat.mul_le_mul_right _ (lt_pow_digitCount _)
    _ = 10 ^ (digitCount first.quotient + (quotientDigits - digitCount first.quotient)) :=
        (pow_add _ _ _).symm
    _ ≤ 10 ^ (m + n) := by
        refine Nat.pow_le_pow_right (by norm_num) ?_
        simp only [quotientDigits]
        omega

end LongDivision

/-- The size of a quotient of coefficients of up to `m` and `n` digits. -/
theorem divideCoeffs_bounds {a b m n : ℕ} (hb : 0 < b) (ham : a < 10 ^ m) (hbn : b < 10 ^ n)
    (hmn : 100 ≤ m + n) (scale : ℤ) :
    (divideCoeffs a b scale).coeff.natAbs ≤ 10 ^ (m + n) ∧
      scale ≤ (divideCoeffs a b scale).scale ∧
      (divideCoeffs a b scale).scale ≤ scale + n + 100 := by
  have hn0 : n ≠ 0 := by
    rintro rfl
    omega
  have hk : leadingShift a b ≤ n := (leadingShift_le a b).trans (digitCount_le hbn hn0)
  obtain ⟨up, hup, -, heq⟩ := divideCoeffs_eq a b scale
  have hquot := LongDivision.quotient_finish_lt hb ham hk hmn scale
  have hscale : scale + leadingShift a b ≤ (LongDivision.finish a b scale).scale ∧
      (LongDivision.finish a b scale).scale ≤ scale + leadingShift a b +
        (quotientDigits - digitCount (LongDivision.start a b scale).quotient : ℕ) :=
    LongDivision.scale_run_le b _ (LongDivision.start a b scale)
  have hfuel : quotientDigits - digitCount (LongDivision.start a b scale).quotient ≤ 100 :=
    Nat.sub_le _ _
  rw [heq]
  refine ⟨?_, ?_, ?_⟩
  · rw [Int.natAbs_natCast]
    omega
  · show scale ≤ (LongDivision.finish a b scale).scale
    omega
  · show (LongDivision.finish a b scale).scale ≤ _
    omega

/-- The size of a quotient of decimals with coefficients of up to `m` and `n` digits. -/
theorem div_bounds {a b : Decimal} {m n : ℕ} (hb : b.coeff ≠ 0) (ham : a.coeff.natAbs < 10 ^ m)
    (hbn : b.coeff.natAbs < 10 ^ n) (hmn : 100 ≤ m + n) :
    (a.div b).coeff.natAbs ≤ 10 ^ (m + n) ∧
      min a.scale (a.scale - b.scale) ≤ (a.div b).scale ∧
      (a.div b).scale ≤ max a.scale (a.scale - b.scale + n + 100) := by
  unfold div
  split
  · refine ⟨ham.le.trans (Nat.pow_le_pow_right (by norm_num) (Nat.le_add_right m n)), ?_, ?_⟩
    · exact min_le_left _ _
    · exact le_max_left _ _
  split
  · refine ⟨Nat.one_le_pow _ _ (by norm_num), ?_, ?_⟩
    · exact min_le_right _ _
    · dsimp only
      omega
  · obtain ⟨hcoeff, hlow, hhigh⟩ := divideCoeffs_bounds
      (Int.natAbs_pos.2 hb) ham hbn hmn (a.scale - b.scale)
    dsimp only
    generalize divideCoeffs a.coeff.natAbs b.coeff.natAbs (a.scale - b.scale) = q at *
    split
    · exact ⟨hcoeff, by omega, by omega⟩
    · refine ⟨?_, ?_, ?_⟩
      · rwa [Int.natAbs_neg]
      · dsimp only
        omega
      · dsimp only
        omega

end Payables.Decimal
