import Payables.Binary64.Text
import Payables.Proofs.Binary64.Close
import Payables.Proofs.Decimal.Quotient

/-!
# Decimals of ordinary size

A plain decimal has at most a hundred digits and its point within fifty places of them.  Sums and
quotients of plain decimals stay far from the ends of the binary64 range, so they are converted with
hardly any loss, however they are written.

* `toBinary64_close` — a decimal within the range is converted to a number close to its value.
* `Plain.abs_value_lt`, `Plain.le_abs_value` — the size of a plain decimal.
* `Plain.hundredfold_sub` — the size of the dividend of a percentage.
* `Plain.toBinary64_abs` — a plain amount is converted to a number close to it.
-/

namespace Payables.Decimal

open Binary64

theorem wrap32_of_lt {n : ℤ} (h1 : -2147483648 ≤ n) (h2 : n < 2147483648) : wrap32 n = n := by
  unfold wrap32
  rw [Int.bmod_def]
  split <;> omega

/-! ## Conversion -/

/-- A zero is converted to a zero. -/
theorem toBinary64_of_zero {d : Decimal} (hc : d.coeff = 0) (hlow : -305 ≤ d.scale)
    (hhigh : d.scale ≤ 305) : d.toBinary64 = finite false 0 := by
  obtain ⟨p, hp, -⟩ := powTen_close (e := -d.scale) (by omega) (by omega)
  have hzero : Binary64.ofInt 0 = finite false 0 := ofInt_eq_finite (n := 0) (by norm_num)
  have hfits : (0 : ℚ) < overflowBound := two_zpow_pos 1024
  rw [toBinary64, wrap32_of_lt (by omega) (by omega), hc, hp, hzero]
  simp [Binary64.mul, ofMagnitude, roundMagnitude_zero, hfits]

/-- A decimal within the range is converted to a number of its sign, close to its value. -/
theorem toBinary64_close {d : Decimal} {n : ℕ} (hc : d.coeff ≠ 0)
    (hdigits : d.coeff.natAbs ≤ 10 ^ n) (hn : n ≤ 305) (hlow : -305 ≤ d.scale)
    (hhigh : d.scale ≤ 305) (hvalue : |d.value| ≤ 10 ^ (305 : ℤ)) :
    ∃ v, d.toBinary64 = finite (decide (d.coeff < 0)) v ∧ Close 308 |d.value| v := by
  have hone : (1 : ℚ) ≤ d.coeff.natAbs := by exact_mod_cast Int.natAbs_pos.2 hc
  have hsmall : (10 : ℚ) ^ (-305 : ℤ) ≤ 1 := by
    calc (10 : ℚ) ^ (-305 : ℤ) ≤ 10 ^ (0 : ℤ) := ten_zpow_le (by norm_num)
      _ = 1 := zpow_zero _
  have hlarge : (d.coeff.natAbs : ℚ) ≤ 10 ^ (305 : ℤ) := by
    calc (d.coeff.natAbs : ℚ) ≤ ((10 ^ n : ℕ) : ℚ) := Nat.cast_le.2 hdigits
      _ = 10 ^ (n : ℤ) := by rw [Nat.cast_pow, zpow_natCast, Nat.cast_ofNat]
      _ ≤ 10 ^ (305 : ℤ) := ten_zpow_le (by omega)
  obtain ⟨c, hcoeff, hcloseC⟩ := ofMagnitude_close (s := decide (d.coeff < 0))
    (Close.refl (one_pos.trans_le hone)) (by norm_num) (hsmall.trans hone) hlarge
  obtain ⟨p, hp, hcloseP⟩ := powTen_close (e := -d.scale) (by omega) (by omega)
  have hmul := hcloseC.mul hcloseP
  rw [← abs_value] at hmul
  have hmin : (10 : ℚ) ^ (-305 : ℤ) ≤ |d.value| := by
    rw [abs_value]
    calc (10 : ℚ) ^ (-305 : ℤ) ≤ 10 ^ (-d.scale) := ten_zpow_le (by omega)
      _ ≤ d.coeff.natAbs * 10 ^ (-d.scale) := le_mul_of_one_le_left (ten_zpow_pos _).le hone
  obtain ⟨v, hv, hcloseV⟩ := ofMagnitude_close (s := decide (d.coeff < 0) != false) hmul
    (by norm_num) hmin hvalue
  refine ⟨v, ?_, hcloseV⟩
  rw [toBinary64, wrap32_of_lt (by omega) (by omega), ofInt_eq_ofMagnitude, hcoeff, hp]
  simpa [Binary64.mul] using hv

/-! ## Plain decimals -/

/-- A decimal of ordinary size: up to a hundred digits, and a point within fifty places. -/
structure Plain (d : Decimal) : Prop where
  digits : d.coeff.natAbs < 10 ^ 100
  scale_ge : -50 ≤ d.scale
  scale_le : d.scale ≤ 50

namespace Plain

variable {a b d : Decimal}

theorem abs_value_lt (h : d.Plain) : |d.value| < 10 ^ (150 : ℤ) := by
  have hdigits : (d.coeff.natAbs : ℚ) < 10 ^ (100 : ℤ) := by
    have : (d.coeff.natAbs : ℚ) < ((10 ^ 100 : ℕ) : ℚ) := Nat.cast_lt.2 h.digits
    rwa [Nat.cast_pow] at this
  have hscale := h.scale_ge
  rw [abs_value]
  calc (d.coeff.natAbs : ℚ) * 10 ^ (-d.scale) ≤ d.coeff.natAbs * 10 ^ (50 : ℤ) :=
        mul_le_mul_of_nonneg_left (ten_zpow_le (by omega)) (Nat.cast_nonneg _)
    _ < 10 ^ (100 : ℤ) * 10 ^ (50 : ℤ) := mul_lt_mul_of_pos_right hdigits (ten_zpow_pos _)
    _ = 10 ^ (150 : ℤ) := by rw [← ten_zpow_add]; norm_num

theorem le_abs_value (h : d.Plain) (hd : d.value ≠ 0) : (10 : ℚ) ^ (-50 : ℤ) ≤ |d.value| := by
  have hone : (1 : ℚ) ≤ d.coeff.natAbs := by
    have hc : d.coeff ≠ 0 := fun hc => hd (value_eq_zero.2 hc)
    exact_mod_cast Int.natAbs_pos.2 hc
  have hscale := h.scale_le
  rw [abs_value]
  calc (10 : ℚ) ^ (-50 : ℤ) ≤ 10 ^ (-d.scale) := ten_zpow_le (by omega)
    _ ≤ d.coeff.natAbs * 10 ^ (-d.scale) := le_mul_of_one_le_left (ten_zpow_pos _).le hone

/-- Written with up to fifty places, a plain decimal has at most two hundred digits. -/
theorem natAbs_coeffAt_lt (h : d.Plain) {s : ℤ} (hs : s ≤ 50) :
    (d.coeffAt s).natAbs < 10 ^ 200 := by
  have hscale := h.scale_ge
  unfold coeffAt
  split
  · positivity
  · rw [Int.natAbs_mul, Int.natAbs_natCast, tenTo_eq]
    calc d.coeff.natAbs * 10 ^ (s - d.scale).toNat < 10 ^ 100 * 10 ^ 100 :=
          Nat.mul_lt_mul_of_lt_of_le h.digits (Nat.pow_le_pow_right (by norm_num) (by omega))
            (by positivity)
      _ = 10 ^ 200 := by rw [← pow_add]

/-- The size of a hundredfold difference. -/
theorem hundredfold_sub (ha : a.Plain) (hb : b.Plain) :
    (a.sub b).hundredfold.coeff.natAbs < 10 ^ 203 ∧ -50 ≤ (a.sub b).hundredfold.scale ∧
      (a.sub b).hundredfold.scale ≤ 50 := by
  have hscale := ha.scale_ge
  have hmax : max a.scale b.scale ≤ 50 := max_le ha.scale_le hb.scale_le
  have hacoeff := ha.natAbs_coeffAt_lt hmax
  have hbcoeff := hb.natAbs_coeffAt_lt hmax
  unfold hundredfold
  split
  · refine ⟨?_, by decide, by decide⟩
    show (100 : ℤ).natAbs < 10 ^ 203
    calc (100 : ℤ).natAbs = 10 ^ 2 := rfl
      _ < 10 ^ 203 := Nat.pow_lt_pow_right (by norm_num) (by norm_num)
  · simp only [sub]
    refine ⟨?_, by omega, by omega⟩
    have hsub := Int.natAbs_sub_le (a.coeffAt (max a.scale b.scale))
      (b.coeffAt (max a.scale b.scale))
    have hpow : (10 : ℕ) ^ 203 = 1000 * 10 ^ 200 := by
      rw [show 203 = 3 + 200 from rfl, pow_add]
      norm_num
    rw [Int.natAbs_mul, hpow]
    generalize (10 : ℕ) ^ 200 = k at *
    have h100 : (100 : ℤ).natAbs = 100 := rfl
    rw [h100]
    omega

/-- A plain amount is converted, without its sign, to a number close to it. -/
theorem toBinary64_abs (h : d.Plain) :
    ∃ v, d.abs.toBinary64 = finite false v ∧ |v - d.abs.value| ≤ d.abs.value / 10 ^ 12 := by
  have hlow : -305 ≤ d.abs.scale := le_trans (by norm_num) h.scale_ge
  have hhigh : d.abs.scale ≤ 305 := h.scale_le.trans (by norm_num)
  by_cases hc : d.abs.coeff = 0
  · refine ⟨0, toBinary64_of_zero hc hlow hhigh, ?_⟩
    rw [value_eq_zero.2 hc]
    norm_num
  · have hdigits : d.abs.coeff.natAbs ≤ 10 ^ 100 := by
      have habs : d.abs.coeff.natAbs = d.coeff.natAbs := Int.natAbs_natCast _
      rw [habs]
      exact h.digits.le
    have hvalue : |d.abs.value| ≤ 10 ^ (305 : ℤ) := by
      rw [value_abs, abs_abs]
      exact h.abs_value_lt.le.trans (ten_zpow_le (by norm_num))
    have hsign : decide (d.abs.coeff < 0) = false := by
      simp [abs]
    obtain ⟨v, hv, hclose⟩ := toBinary64_close hc hdigits (by norm_num) hlow hhigh hvalue
    rw [hsign] at hv
    rw [value_abs, abs_abs, ← value_abs] at hclose
    exact ⟨v, hv, hclose.abs_sub_le (by norm_num)⟩

end Plain

end Payables.Decimal
