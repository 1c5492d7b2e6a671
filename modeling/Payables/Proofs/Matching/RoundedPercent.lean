import Payables.Proofs.Matching.PercentChange

/-!
# Percentages that do not depend on how the numbers are written

A measured percentage is the exact one, rounded to two places, unless that lies so close to the
middle between two hundredths that the losses of the conversion decide which way it goes.

* `ClearPercent` — plain decimals whose exact percentage keeps clear of these middles.
* `percentChange_eq_rounded` — such a percentage is the exact one, rounded.
* `percentChange_congr` — so it is the same for all ways to write the two numbers.
-/

namespace Payables

open Binary64

/-- Two plain decimals whose percentage is no closer to the middle between two hundredths than one
part in `10 ^ 10` of itself. -/
structure ClearPercent (a b : Decimal) : Prop where
  invoiced : a.Plain
  ordered : b.Plain
  clear : b.value ≠ 0 → ∀ k : ℤ,
    |exactPercent a b| / 10 ^ 10 < |100 * |exactPercent a b| - (k + 1 / 2)|

/-- Rounding a number near `x` gives what rounding `x` gives, where `x` is far from the halves. -/
theorem floor_add_half_eq {x y δ : ℚ} (hy : |y - x| ≤ δ)
    (hclear : ∀ k : ℤ, δ < |x - (k + 1 / 2)|) : (y + 1 / 2).floor = (x + 1 / 2).floor := by
  obtain ⟨hbelow, habove⟩ := abs_le.1 hy
  have hle := Rat.floor_le (x + 1 / 2)
  have hlt := Rat.lt_floor_add_one (x + 1 / 2)
  push_cast at hlt
  generalize (x + 1 / 2).floor = k at *
  -- the half below and the half above `x` are farther away than `y` is
  have hlow : δ < x - (k - 1 / 2) := by
    have h := hclear (k - 1)
    push_cast at h
    rw [abs_of_nonneg (by linarith)] at h
    linarith
  have hhigh : δ < k + 1 / 2 - x := by
    have h := hclear k
    rw [abs_sub_comm, abs_of_nonneg (by linarith)] at h
    exact h
  have hfloor : ⌊y + 1 / 2⌋ = k := by
    rw [Int.floor_eq_iff]
    constructor
    · linarith
    · linarith
  exact hfloor

namespace ClearPercent

variable {a b : Decimal}

/-- A percentage of whole hundredths lies between the middles. -/
theorem of_hundredths (ha : a.Plain) (hb : b.Plain) {n : ℤ} (hn : 100 * |exactPercent a b| = n)
    (hmax : |exactPercent a b| < 10 ^ 9) : ClearPercent a b where
  invoiced := ha
  ordered := hb
  clear := by
    intro _ k
    have hhalf : (1 : ℚ) / 2 ≤ |(n : ℚ) - (k + 1 / 2)| := by
      rcases lt_or_ge k n with hlt | hge
      · have : (k : ℚ) + 1 ≤ n := by exact_mod_cast hlt
        rw [abs_of_nonneg (by linarith)]
        linarith
      · have : (n : ℚ) ≤ k := by exact_mod_cast hge
        rw [abs_of_nonpos (by linarith)]
        linarith
    rw [hn]
    linarith

/-- The quotient of plain decimals is within the range. -/
theorem quotient_bounds (h : ClearPercent a b) (hb : b.value ≠ 0) :
    (percentQuotient a b).coeff.natAbs ≤ 10 ^ (203 + 100) ∧ -305 ≤ (percentQuotient a b).scale ∧
      (percentQuotient a b).scale ≤ 305 := by
  obtain ⟨hdigits, hlow, hhigh⟩ := h.invoiced.hundredfold_sub h.ordered
  have hbc : b.coeff ≠ 0 := fun hc => hb (Decimal.value_eq_zero.2 hc)
  obtain ⟨hcoeff, hmin, hmax⟩ := Decimal.div_bounds hbc hdigits h.ordered.digits (by norm_num)
  have hblow := h.ordered.scale_ge
  have hbhigh := h.ordered.scale_le
  change _ ≤ (percentQuotient a b).scale at hmin
  change (percentQuotient a b).scale ≤ _ at hmax
  exact ⟨hcoeff, by omega, by omega⟩

/-- The exact percentage is within the range. -/
theorem abs_exactPercent_le (h : ClearPercent a b) (hb : b.value ≠ 0) :
    |exactPercent a b| ≤ 10 ^ (203 : ℤ) := by
  have hnum : |100 * (a.value - b.value)| ≤ 10 ^ (153 : ℤ) := by
    have habove := abs_sub a.value b.value
    have hpow : (10 : ℚ) ^ (153 : ℤ) = 1000 * 10 ^ (150 : ℤ) := by
      rw [show (153 : ℤ) = 3 + 150 from rfl, Decimal.ten_zpow_add]
      norm_num
    have ha := h.invoiced.abs_value_lt
    have hb := h.ordered.abs_value_lt
    rw [abs_mul, abs_of_pos (by norm_num), hpow]
    generalize (10 : ℚ) ^ (150 : ℤ) = k at *
    linarith [abs_nonneg a.value]
  have hden := h.ordered.le_abs_value hb
  rw [exactPercent, abs_div]
  calc |100 * (a.value - b.value)| / |b.value| ≤ 10 ^ (153 : ℤ) / 10 ^ (-50 : ℤ) :=
        div_le_div₀ (Decimal.ten_zpow_pos _).le hnum (Decimal.ten_zpow_pos _) hden
    _ = 10 ^ (203 : ℤ) := by rw [← zpow_sub₀ (by norm_num)]; norm_num

/-- A quotient that is not zero has the sign of the exact percentage, and is close to it. -/
theorem close_quotient (hb : b.value ≠ 0) (hc : (percentQuotient a b).coeff ≠ 0) :
    ((percentQuotient a b).coeff < 0 ↔ exactPercent a b < 0) ∧
      Close 1 |exactPercent a b| |(percentQuotient a b).value| := by
  have herr := abs_percentQuotient_sub_le a hb
  have hsign : (percentQuotient a b).coeff < 0 ↔ (percentQuotient a b).value < 0 :=
    Decimal.value_neg_iff.symm
  have hpos : 0 < |(percentQuotient a b).value| := by
    rw [abs_pos, Ne, Decimal.value_eq_zero]
    exact hc
  rw [hsign]
  generalize (percentQuotient a b).value = q at *
  generalize exactPercent a b = e at *
  have hloss : |q - e| ≤ |q| * loss :=
    herr.trans (mul_le_mul_of_nonneg_left (by norm_num [loss]) hpos.le)
  have hkeep : 0 < |q| * (1 - loss) := mul_pos hpos one_sub_loss_pos
  constructor
  · obtain ⟨hbelow, habove⟩ := abs_le.1 hloss
    rcases lt_or_ge q 0 with hq | hq
    · rw [abs_of_neg hq] at hbelow hkeep
      exact iff_of_true hq (by linarith)
    · rw [abs_of_nonneg hq] at habove hkeep
      exact iff_of_false (not_lt.2 hq) (by linarith)
  · have hq : |q| - |e| ≤ |q| * loss := (abs_sub_abs_le_abs_sub q e).trans hloss
    have he : |e| - |q| ≤ |q| * loss := by
      rw [abs_sub_comm] at hloss
      exact (abs_sub_abs_le_abs_sub e q).trans hloss
    have hsq := mul_pos hpos (mul_pos loss_pos loss_pos)
    have hscaled := mul_le_mul_of_nonneg_right he one_sub_loss_pos.le
    refine ⟨by linarith, ?_, ?_⟩
    · rw [pow_one]
      linarith
    · rw [pow_one]
      linarith

/-- A quotient that is not zero is well within the range, and so is the number of hundredths. -/
theorem range (h : ClearPercent a b) (hb : b.value ≠ 0) (hc : (percentQuotient a b).coeff ≠ 0) :
    |(percentQuotient a b).value| ≤ 10 ^ (305 : ℤ) ∧
      (10 : ℚ) ^ (-305 : ℤ) ≤ 100 * |exactPercent a b| ∧
      100 * |exactPercent a b| ≤ 10 ^ (305 : ℤ) := by
  have hclose := (close_quotient hb hc).2
  have hpos := hclose.pos
  obtain ⟨-, habove⟩ := abs_le.1 (hclose.abs_sub_le (by norm_num))
  obtain ⟨-, -, hscale⟩ := h.quotient_bounds hb
  have hmax := h.abs_exactPercent_le hb
  refine ⟨?_, ?_, ?_⟩
  · calc |(percentQuotient a b).value| ≤ 2 * |exactPercent a b| := by linarith
      _ ≤ 10 * 10 ^ (203 : ℤ) := mul_le_mul (by norm_num) hmax (abs_nonneg _) (by norm_num)
      _ = 10 ^ (204 : ℤ) := by rw [← zpow_one_add₀ (by norm_num)]; norm_num
      _ ≤ 10 ^ (305 : ℤ) := ten_zpow_le (by norm_num)
  · have hone : (1 : ℚ) ≤ (percentQuotient a b).coeff.natAbs := by
      exact_mod_cast Int.natAbs_pos.2 hc
    calc (10 : ℚ) ^ (-305 : ℤ) ≤ 10 ^ (-(percentQuotient a b).scale) := ten_zpow_le (by omega)
      _ ≤ |(percentQuotient a b).value| := by
          rw [Decimal.abs_value]
          exact le_mul_of_one_le_left (Decimal.ten_zpow_pos _).le hone
      _ ≤ 100 * |exactPercent a b| := by linarith
  · calc 100 * |exactPercent a b| ≤ 10 ^ (2 : ℤ) * 10 ^ (203 : ℤ) :=
          mul_le_mul (by norm_num) hmax (abs_nonneg _) (by norm_num)
      _ = 10 ^ (205 : ℤ) := by rw [← Decimal.ten_zpow_add]; norm_num
      _ ≤ 10 ^ (305 : ℤ) := ten_zpow_le (by norm_num)

/-- The number of hundredths, before it is rounded. -/
theorem hundredths_close (h : ClearPercent a b) (hb : b.value ≠ 0) :
    ∃ w, (percentQuotient a b).toBinary64.mul (finite false 100) =
        finite (decide (exactPercent a b < 0)) w ∧
      |w - 100 * (|exactPercent a b|)| ≤ |exactPercent a b| / 10 ^ 10 := by
  obtain ⟨hdigits, hlow, hhigh⟩ := h.quotient_bounds hb
  by_cases hc : (percentQuotient a b).coeff = 0
  · -- nothing has changed
    have hzero : exactPercent a b = 0 := by
      have hbound := (abs_exactPercent_bounds a hb).2
      rw [Decimal.value_eq_zero.2 hc, abs_zero, mul_zero] at hbound
      exact abs_nonpos_iff.1 hbound
    have hfits : (0 : ℚ) < overflowBound := two_zpow_pos 1024
    refine ⟨0, ?_, ?_⟩
    · rw [Decimal.toBinary64_of_zero hc hlow hhigh, hzero]
      simp [Binary64.mul, ofMagnitude, roundMagnitude_zero, hfits]
    · rw [hzero]
      norm_num
  · -- the quotient, its conversion and the product are each a few roundings off
    obtain ⟨hsign, hclose⟩ := close_quotient hb hc
    obtain ⟨hvalue, hmin, hlarge⟩ := h.range hb hc
    obtain ⟨v, hv, hcloseV⟩ := Decimal.toBinary64_close hc hdigits (by norm_num) hlow hhigh hvalue
    have hmul := (hclose.trans hcloseV).mul (Close.refl (x := 100) (by norm_num))
    rw [mul_comm |exactPercent a b|] at hmul
    obtain ⟨w, hw, hcloseW⟩ := ofMagnitude_close
      (s := decide ((percentQuotient a b).coeff < 0) != false) hmul (by norm_num) hmin hlarge
    refine ⟨w, ?_, ?_⟩
    · rw [hv, ← decide_eq_decide.2 hsign]
      simpa [Binary64.mul] using hw
    · calc |w - 100 * (|exactPercent a b|)| ≤ 100 * |exactPercent a b| / 10 ^ 12 :=
            hcloseW.abs_sub_le (by norm_num)
        _ = |exactPercent a b| / 10 ^ 10 := by ring

/-- **The measured percentage is the exact one**, rounded to two places with a half going away from
zero. -/
theorem percentChange_eq_rounded (h : ClearPercent a b) (hb : b.value ≠ 0) :
    percentChange a b = (finite (decide (exactPercent a b < 0))
      ((100 * |exactPercent a b| + 1 / 2).floor : ℚ)).div (finite false 100) := by
  obtain ⟨w, hw, hdist⟩ := h.hundredths_close hb
  rw [percentChange_of_ne_zero hb, hw]
  simp only [Binary64.round]
  rw [floor_add_half_eq hdist (h.clear hb)]

end ClearPercent

/-- **The way the numbers are written does not matter** for a percentage that is clear of the
middles. -/
theorem percentChange_congr {a b a' b' : Decimal} (h : ClearPercent a b) (h' : ClearPercent a' b')
    (ha : a.value = a'.value) (hb : b.value = b'.value) :
    percentChange a b = percentChange a' b' := by
  rcases eq_or_ne b.value 0 with hzero | hne
  · have hsign : a.coeff ≤ 0 ↔ a'.coeff ≤ 0 := by
      rw [le_iff_lt_or_eq, le_iff_lt_or_eq, ← Decimal.value_neg_iff, ← Decimal.value_neg_iff,
        ← Decimal.value_eq_zero, ← Decimal.value_eq_zero, ha]
    rw [percentChange_of_zero hzero, percentChange_of_zero (hb.symm.trans hzero), ha,
      decide_eq_decide.2 hsign]
  · have hexact : exactPercent a b = exactPercent a' b' := by
      rw [exactPercent, exactPercent, ha, hb]
    rw [h.percentChange_eq_rounded hne, h'.percentChange_eq_rounded (hb ▸ hne), hexact]

end Payables
