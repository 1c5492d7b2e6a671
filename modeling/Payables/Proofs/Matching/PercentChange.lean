import Payables.Proofs.Decimal.Plain
import Payables.Matching.Variance

/-!
# What a measured percentage says about the numbers

A percentage passes through a quotient of decimals, a conversion to binary64 and two roundings.
Measured below 1.55 it means that the invoiced number lies within two percent of the ordered one,
in exact rational arithmetic — unless the exponent of the quotient is lost when it is cut to 32
bits (`abs_sub_le_iff_of_percentChange`).

* `abs_value_lt_of_toBinary64` — a small converted number comes from a small decimal.  Only three
  ranges of the scale matter: beyond 308 places any coefficient that is still finite is small,
  below zero the power alone is too large, and in between the power keeps its value.
* `percentChange_isNaN_iff` — when a percentage is no number at all.
* `abs_sub_le_of_percentChange`, `lt_abs_sub_of_exponentLost` — the two directions.
-/

namespace Payables

open Binary64

/-! ## Converted decimals -/

namespace Decimal

/-- A coefficient whose conversion is finite keeps nearly all of its value. -/
theorem ofInt_ge {n : ℤ} {s : Bool} {m : ℚ} (hn : n ≠ 0) (h : Binary64.ofInt n = finite s m) :
    (n.natAbs : ℚ) * (1 - loss) ≤ m ∧ (n.natAbs : ℚ) < overflowBound := by
  rw [ofInt_eq_ofMagnitude] at h
  obtain ⟨-, rfl, hlt⟩ := ofMagnitude_eq_finite h
  have hone : (1 : ℚ) ≤ n.natAbs := by exact_mod_cast Int.natAbs_pos.2 hn
  exact ⟨roundMagnitude_ge (tiny_le_one.trans hone), onGrid_overflowBound.lt_of_round_lt hlt⟩

/-- A finite coefficient is small from 309 places on. -/
theorem overflowBound_mul_lt {t : ℤ} (ht : 309 ≤ t) : overflowBound * (10 : ℚ) ^ (-t) ≤ 1 := by
  have hpow : (2 : ℚ) ^ (1024 : ℕ) ≤ 10 ^ (309 : ℕ) := by
    have : (2 ^ 1024 : ℕ) ≤ 10 ^ 309 := by decide +kernel
    exact_mod_cast this
  have hten : (10 : ℚ) ^ (309 : ℕ) ≤ 10 ^ t := by
    rw [← zpow_natCast]
    exact zpow_le_zpow_right₀ (by norm_num) ht
  rw [zpow_neg, ← div_eq_mul_inv, div_le_one (ten_zpow_pos t)]
  calc overflowBound = 2 ^ (1024 : ℕ) := zpow_natCast 2 1024
    _ ≤ 10 ^ t := hpow.trans hten

/-- The losses of at most 310 roundings. -/
theorem losses_ge {n : ℕ} (hn : n ≤ 308) : 999 / 1000 ≤ (1 - loss) ^ (n + 2) := by
  have hl0 := loss_pos
  have hl1 := loss_lt
  have hbern := one_add_mul_le_pow (a := -loss) (by linarith) (n + 2)
  have hcast : ((n + 2 : ℕ) : ℚ) ≤ 310 := by exact_mod_cast (by omega : n + 2 ≤ 310)
  have hmul : ((n + 2 : ℕ) : ℚ) * loss ≤ 310 * loss := mul_le_mul_of_nonneg_right hcast hl0.le
  have hpow : (1 + -loss) ^ (n + 2) = (1 - loss) ^ (n + 2) := by rw [← sub_eq_add_neg]
  rw [hpow] at hbern
  linarith

/-- A product of a coefficient and a power of ten keeps nearly all of its value, if both do. -/
theorem product_ge {k n : ℕ} {c q : ℚ} (hn : n ≤ 308) (hc : (k : ℚ) * (1 - loss) ≤ c)
    (hq : (10 : ℚ)⁻¹ ^ n * (1 - loss) ^ (n + 1) ≤ q) :
    (k : ℚ) * 10⁻¹ ^ n * (999 / 1000) ≤ c * q := by
  have hl : 0 ≤ 1 - loss := by linarith [loss_lt]
  have hk : 0 ≤ (k : ℚ) * (1 - loss) := mul_nonneg (Nat.cast_nonneg k) hl
  have hpow : 0 ≤ (10 : ℚ)⁻¹ ^ n * (1 - loss) ^ (n + 1) := by positivity
  calc (k : ℚ) * 10⁻¹ ^ n * (999 / 1000) ≤ k * 10⁻¹ ^ n * (1 - loss) ^ (n + 2) :=
        mul_le_mul_of_nonneg_left (losses_ge hn) (by positivity)
    _ = k * (1 - loss) * (10⁻¹ ^ n * (1 - loss) ^ (n + 1)) := by ring
    _ ≤ c * q := mul_le_mul hc hq hpow (hk.trans hc)

/-- A small converted number comes from a small decimal, as long as its exponent has 32 bits. -/
theorem abs_value_lt_of_toBinary64 {d : Decimal} {s : Bool} {v : ℚ}
    (h : d.toBinary64 = finite s v) (hv : v < 25 / 16) (hscale : -2147483648 < d.scale) :
    |d.value| < 8 / 5 := by
  rcases eq_or_ne d.coeff 0 with hzero | hne
  · rw [value_eq_zero.2 hzero, abs_zero]
    norm_num
  have hgrid : OnGrid (25 / 16) :=
    onGrid_of_mul_two_pow (n := 25) (k := 4) (by norm_num) (by norm_num) (by norm_num)
  obtain ⟨s₁, c, s₂, p, hc, hp, hcp⟩ := mul_lt_of_lt hgrid h hv
  obtain ⟨hcge, hclt⟩ := ofInt_ge hne hc
  rw [abs_value]
  rcases lt_or_ge d.scale 0 with hneg | hnonneg
  · -- the power alone is too large
    obtain ⟨n, hn⟩ : ∃ n : ℕ, -d.scale = n := ⟨(-d.scale).toNat, by omega⟩
    rw [wrap32_of_lt (by omega) (by omega), hn] at hp
    have hp9 : 9 ≤ p := nine_le_of_powTen (by omega) hp
    have hc9 : 9 / 10 ≤ c := by
      have hone : (1 : ℚ) ≤ d.coeff.natAbs := by exact_mod_cast Int.natAbs_pos.2 hne
      nlinarith [loss_lt]
    nlinarith
  · obtain ⟨n, hn⟩ : ∃ n : ℕ, d.scale = n := ⟨d.scale.toNat, by omega⟩
    rcases Nat.lt_or_ge 308 n with hbig | hsmall
    · -- beyond the range of the powers
      calc (d.coeff.natAbs : ℚ) * 10 ^ (-d.scale) ≤ overflowBound * 10 ^ (-d.scale) :=
            mul_le_mul_of_nonneg_right hclt.le (ten_zpow_pos _).le
        _ ≤ 1 := overflowBound_mul_lt (by omega)
        _ < 8 / 5 := by norm_num
    · -- both factors keep their values up to the losses
      obtain ⟨q, hq, hqge⟩ := powTen_neg_ge hsmall
      rw [wrap32_of_lt (by omega) (by omega), hn, hq, finite.injEq] at hp
      obtain ⟨-, rfl⟩ := hp
      have hprod := product_ge hsmall hcge hqge
      rw [hn, zpow_neg, zpow_natCast, ← inv_pow]
      linarith

end Decimal

/-! ## Measured percentages -/

/-- The quotient that a percentage is taken from. -/
def percentQuotient (invoiced ordered : Decimal) : Decimal :=
  (invoiced.sub ordered).hundredfold.div ordered

/-- The quotient is so large that its exponent does not fit 32 bits: what is left of it after the
cut says nothing about the numbers. -/
def ExponentLost (invoiced ordered : Decimal) : Prop :=
  ordered.value ≠ 0 ∧ (percentQuotient invoiced ordered).coeff ≠ 0 ∧
    (percentQuotient invoiced ordered).scale ≤ -2147483648

/-- The percentage in exact arithmetic. -/
def exactPercent (invoiced ordered : Decimal) : ℚ :=
  100 * (invoiced.value - ordered.value) / ordered.value

/-- Within two percent is what the exact percentage says. -/
theorem abs_exactPercent_le_two_iff {invoiced ordered : Decimal} (h : ordered.value ≠ 0) :
    |exactPercent invoiced ordered| ≤ 2 ↔
      |invoiced.value - ordered.value| ≤ 2 / 100 * |ordered.value| := by
  have hpos : 0 < |ordered.value| := abs_pos.2 h
  have habs : |exactPercent invoiced ordered|
      = 100 * |invoiced.value - ordered.value| / |ordered.value| := by
    rw [exactPercent, abs_div, abs_mul, abs_of_pos (by norm_num : (0 : ℚ) < 100)]
  rw [habs, div_le_iff₀ hpos]
  constructor
  · intro hle
    linarith
  · intro hle
    linarith

/-- The quotient misses the exact percentage by at most `10 ^ (-99)` of itself. -/
theorem abs_percentQuotient_sub_le (invoiced : Decimal) {ordered : Decimal}
    (h : ordered.value ≠ 0) :
    |(percentQuotient invoiced ordered).value - exactPercent invoiced ordered|
      ≤ |(percentQuotient invoiced ordered).value| * (1 / 10 ^ 99) := by
  have herr := Decimal.abs_value_div_sub_le (invoiced.sub ordered).hundredfold ordered h
  rwa [Decimal.value_hundredfold, Decimal.value_sub] at herr

/-- The quotient is the exact percentage, give or take a tenth. -/
theorem abs_exactPercent_bounds (invoiced : Decimal) {ordered : Decimal} (h : ordered.value ≠ 0) :
    9 / 10 * |(percentQuotient invoiced ordered).value| ≤ |exactPercent invoiced ordered| ∧
      |exactPercent invoiced ordered| ≤ 11 / 10 * |(percentQuotient invoiced ordered).value| := by
  have herr := abs_percentQuotient_sub_le invoiced h
  generalize (percentQuotient invoiced ordered).value = q at herr ⊢
  generalize exactPercent invoiced ordered = e at herr ⊢
  have hsmall : |q| * (1 / 10 ^ 99) ≤ |q| * (1 / 10) :=
    mul_le_mul_of_nonneg_left (by norm_num) (abs_nonneg q)
  have hbelow : |q| - |e| ≤ |q - e| := abs_sub_abs_le_abs_sub q e
  have habove : |e| - |q| ≤ |q - e| := by
    rw [abs_sub_comm q e]
    exact abs_sub_abs_le_abs_sub e q
  constructor
  · linarith
  · linarith

theorem percentChange_of_zero {invoiced ordered : Decimal} (h : ordered.value = 0) :
    percentChange invoiced ordered =
      if invoiced.value = 0 then finite false 0
      else finite (decide (invoiced.coeff ≤ 0)) 100 := by
  have hz : ordered.isZero = true := Decimal.isZero_iff.2 h
  have h100 : Binary64.ofInt 100 = finite false 100 := ofInt_eq_finite (n := 100) (by norm_num)
  have h100' : Binary64.ofInt (-100) = finite true 100 := ofInt_eq_finite (n := -100) (by norm_num)
  simp only [percentChange, hz, if_true]
  by_cases hi : invoiced.value = 0
  · rw [if_pos (Decimal.isZero_iff.2 hi), if_pos hi]
    rfl
  · rw [if_neg (fun hz' => hi (Decimal.isZero_iff.1 hz')), if_neg hi]
    split
    · rename_i hpos
      rw [h100, decide_eq_false (not_le.2 hpos)]
    · rename_i hpos
      rw [h100', decide_eq_true (not_lt.1 hpos)]

theorem percentChange_of_ne_zero {invoiced ordered : Decimal} (h : ordered.value ≠ 0) :
    percentChange invoiced ordered =
      (((percentQuotient invoiced ordered).toBinary64.mul (finite false 100)).round).div
        (finite false 100) := by
  have hz : ordered.isZero = false := by
    rw [← Bool.not_eq_true, Decimal.isZero_iff]
    exact h
  have h100 : Binary64.ofInt 100 = finite false 100 := ofInt_eq_finite (n := 100) (by norm_num)
  simp only [percentChange, hz, h100]
  rfl

/-- A percentage is NaN exactly where its quotient is so when it is converted: a coefficient that
overflows meets a power that vanishes, or a zero one a power that overflows. -/
theorem percentChange_isNaN_iff {invoiced ordered : Decimal} :
    (percentChange invoiced ordered).isNaN = true ↔ ordered.value ≠ 0 ∧
      ((∃ s t, Binary64.ofInt (percentQuotient invoiced ordered).coeff = infinite s ∧
          powTen (Decimal.wrap32 (-(percentQuotient invoiced ordered).scale)) = finite t 0) ∨
        ∃ s t, Binary64.ofInt (percentQuotient invoiced ordered).coeff = finite s 0 ∧
          powTen (Decimal.wrap32 (-(percentQuotient invoiced ordered).scale)) = infinite t) := by
  rcases eq_or_ne ordered.value 0 with hzero | hne
  · rw [percentChange_of_zero hzero]
    split <;> simp [hzero, isNaN]
  have h100 : (100 : ℚ) ≠ 0 := by norm_num
  rw [percentChange_of_ne_zero hne, div_finite_isNaN h100, round_isNaN, mul_finite_isNaN h100,
    Decimal.toBinary64, mul_isNaN_iff (ofInt_isNaN _) (powTen_isNaN _)]
  simp only [hne, ne_eq, not_false_eq_true, true_and]

/-- A percentage measured below 1.55 comes from a quotient below 1.5625. -/
theorem toBinary64_lt_of_percentChange {invoiced ordered : Decimal} {s : Bool} {m : ℚ}
    (hzero : ordered.value ≠ 0) (h : percentChange invoiced ordered = finite s m)
    (hm : m < 199 / 128) :
    ∃ t v, (percentQuotient invoiced ordered).toBinary64 = finite t v ∧ v < 25 / 16 := by
  rw [percentChange_of_ne_zero hzero] at h
  have hgrid₁ : OnGrid (199 / 128) :=
    onGrid_of_mul_two_pow (n := 199) (k := 7) (by norm_num) (by norm_num) (by norm_num)
  have hgrid₂ : OnGrid (311 / 2) :=
    onGrid_of_mul_two_pow (n := 311) (k := 1) (by norm_num) (by norm_num) (by norm_num)
  obtain ⟨s₁, a, ha, hlt₁⟩ := div_lt_of_lt hgrid₁ (by norm_num) h hm
  obtain ⟨c, -, hac⟩ := round_eq_finite ha
  -- the number of hundredths is a whole number, hence at most 155
  have ha156 : a < ((156 : ℤ) : ℚ) := by
    have : a < 156 := by linarith
    exact_mod_cast this
  obtain ⟨r, hr, hr156⟩ := round_lt_of_lt ha ha156
  have hr311 : r < 311 / 2 := by
    push_cast at hr156
    linarith
  obtain ⟨t, v, _, d, hv, hd, hvd⟩ := mul_lt_of_lt hgrid₂ hr hr311
  rw [finite.injEq] at hd
  obtain ⟨-, rfl⟩ := hd
  exact ⟨t, v, hv, by linarith⟩

/-- A percentage measured below 1.55 means two percent at most, unless the exponent was lost. -/
theorem abs_sub_le_of_percentChange {invoiced ordered : Decimal} {s : Bool} {m : ℚ}
    (h : percentChange invoiced ordered = finite s m) (hm : m < 199 / 128)
    (hfit : ¬ExponentLost invoiced ordered) :
    |invoiced.value - ordered.value| ≤ 2 / 100 * |ordered.value| := by
  rcases eq_or_ne ordered.value 0 with hzero | hne
  · rw [percentChange_of_zero hzero] at h
    split at h
    · rename_i hi
      simp [hi, hzero]
    · rw [finite.injEq] at h
      obtain ⟨-, rfl⟩ := h
      norm_num at hm
  obtain ⟨t, v, hv, hlt⟩ := toBinary64_lt_of_percentChange hne h hm
  have hquot : |(percentQuotient invoiced ordered).value| < 8 / 5 := by
    rcases eq_or_ne (percentQuotient invoiced ordered).coeff 0 with hc | hc
    · rw [Decimal.value_eq_zero.2 hc, abs_zero]
      norm_num
    · refine Decimal.abs_value_lt_of_toBinary64 hv hlt ?_
      by_contra hle
      exact hfit ⟨hne, hc, not_lt.1 hle⟩
  rw [← abs_exactPercent_le_two_iff hne]
  calc |exactPercent invoiced ordered|
      ≤ 11 / 10 * |(percentQuotient invoiced ordered).value| :=
        (abs_exactPercent_bounds invoiced hne).2
    _ ≤ 2 := by linarith

/-- Where the exponent is lost, the numbers are far apart. -/
theorem lt_abs_sub_of_exponentLost {invoiced ordered : Decimal}
    (h : ExponentLost invoiced ordered) :
    2 / 100 * |ordered.value| < |invoiced.value - ordered.value| := by
  obtain ⟨hne, hc, hs⟩ := h
  have hquot : 10 ≤ |(percentQuotient invoiced ordered).value| := by
    rw [Decimal.abs_value]
    have hone : (1 : ℚ) ≤ (percentQuotient invoiced ordered).coeff.natAbs := by
      exact_mod_cast Int.natAbs_pos.2 hc
    have hten : (10 : ℚ) ^ (1 : ℤ) ≤ 10 ^ (-(percentQuotient invoiced ordered).scale) :=
      zpow_le_zpow_right₀ (by norm_num) (by omega)
    rw [zpow_one] at hten
    nlinarith
  apply lt_of_not_ge
  intro hle
  have hexact := (abs_exactPercent_le_two_iff hne).2 hle
  have hbound := (abs_exactPercent_bounds invoiced hne).1
  linarith

/-- **What a small percentage means.**  Measured below 1.55, the numbers are within two percent of
each other exactly where the exponent of their quotient is not lost. -/
theorem abs_sub_le_iff_of_percentChange {invoiced ordered : Decimal} {s : Bool} {m : ℚ}
    (h : percentChange invoiced ordered = finite s m) (hm : m < 199 / 128) :
    |invoiced.value - ordered.value| ≤ 2 / 100 * |ordered.value|
      ↔ ¬ExponentLost invoiced ordered :=
  ⟨fun hle hlost => absurd hle (not_le.2 (lt_abs_sub_of_exponentLost hlost)),
    abs_sub_le_of_percentChange h hm⟩

end Payables
