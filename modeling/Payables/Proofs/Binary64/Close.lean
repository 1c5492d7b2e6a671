import Payables.Proofs.Binary64.PowerOfTen

/-!
# Results close to their exact values

A result of several roundings is off its exact value by a factor: at most one `loss` for each
rounding, in either direction.  `Close n x y` counts the roundings.

* `Close.trans`, `Close.mul`, `Close.inv` — the counts add up, a reciprocal keeps its own.
* `close_round` — one rounding, down to `2 ^ (-1025)`.
* `powTen_close` — powers of ten within 305 places.
* `Close.abs_sub_le` — four hundred roundings are off by less than one part in `10 ^ 12`.
-/

namespace Payables.Binary64

/-- `y` is off the positive number `x` by at most `n` losses. -/
structure Close (n : ℕ) (x y : ℚ) : Prop where
  pos : 0 < x
  below : x * (1 - loss) ^ n ≤ y
  above : y * (1 - loss) ^ n ≤ x

theorem one_sub_loss_pos : 0 < 1 - loss := by linarith [loss_lt]

theorem one_sub_loss_le : 1 - loss ≤ 1 := by linarith [loss_pos]

namespace Close

variable {m n : ℕ} {x x' y y' z : ℚ}

theorem pos_right (h : Close n x y) : 0 < y :=
  (mul_pos h.pos (pow_pos one_sub_loss_pos n)).trans_le h.below

theorem refl (hx : 0 < x) : Close 0 x x := ⟨hx, by simp, by simp⟩

theorem mono (h : Close n x y) (hnm : n ≤ m) : Close m x y := by
  have hpow : (1 - loss) ^ m ≤ (1 - loss) ^ n :=
    pow_le_pow_of_le_one one_sub_loss_pos.le one_sub_loss_le hnm
  exact ⟨h.pos, (mul_le_mul_of_nonneg_left hpow h.pos.le).trans h.below,
    (mul_le_mul_of_nonneg_left hpow h.pos_right.le).trans h.above⟩

theorem trans (h : Close m x y) (h' : Close n y z) : Close (m + n) x z := by
  have hm := pow_pos one_sub_loss_pos m
  have hn := pow_pos one_sub_loss_pos n
  refine ⟨h.pos, ?_, ?_⟩
  · calc x * (1 - loss) ^ (m + n) = x * (1 - loss) ^ m * (1 - loss) ^ n := by
          rw [pow_add, mul_assoc]
      _ ≤ y * (1 - loss) ^ n := mul_le_mul_of_nonneg_right h.below hn.le
      _ ≤ z := h'.below
  · calc z * (1 - loss) ^ (m + n) = z * (1 - loss) ^ n * (1 - loss) ^ m := by
          rw [pow_add, mul_assoc, mul_comm ((1 - loss) ^ m)]
      _ ≤ y * (1 - loss) ^ m := mul_le_mul_of_nonneg_right h'.above hm.le
      _ ≤ x := h.above

theorem mul (h : Close m x y) (h' : Close n x' y') : Close (m + n) (x * x') (y * y') := by
  have hm := pow_pos one_sub_loss_pos m
  have hn := pow_pos one_sub_loss_pos n
  refine ⟨mul_pos h.pos h'.pos, ?_, ?_⟩
  · calc x * x' * (1 - loss) ^ (m + n) = x * (1 - loss) ^ m * (x' * (1 - loss) ^ n) := by
          rw [pow_add]
          ring
      _ ≤ y * y' := mul_le_mul h.below h'.below (mul_pos h'.pos hn).le h.pos_right.le
  · calc y * y' * (1 - loss) ^ (m + n) = y * (1 - loss) ^ m * (y' * (1 - loss) ^ n) := by
          rw [pow_add]
          ring
      _ ≤ x * x' := mul_le_mul h.above h'.above (mul_pos h'.pos_right hn).le h.pos.le

theorem inv (h : Close n x y) : Close n x⁻¹ y⁻¹ := by
  have hy := h.pos_right
  refine ⟨inv_pos.2 h.pos, ?_, ?_⟩
  · rw [inv_mul_le_iff₀ h.pos, ← div_eq_mul_inv, le_div_iff₀ hy, mul_comm]
    exact h.above
  · rw [inv_mul_le_iff₀ hy, ← div_eq_mul_inv, le_div_iff₀ h.pos, mul_comm]
    exact h.below

/-- Four hundred roundings are off by less than one part in `10 ^ 12`. -/
theorem abs_sub_le (h : Close n x y) (hn : n ≤ 400) : |y - x| ≤ x / 10 ^ 12 := by
  have hbern := one_add_mul_le_pow (a := -loss) (by linarith [loss_lt]) n
  rw [← sub_eq_add_neg] at hbern
  have hcast : (n : ℚ) ≤ 400 := by exact_mod_cast hn
  have hloss : 400 * loss ≤ 4 / 10 ^ 13 := by norm_num [loss]
  have hkeep : 1 - 4 / 10 ^ 13 ≤ (1 - loss) ^ n := by
    have := mul_le_mul_of_nonneg_right hcast loss_pos.le
    linarith
  have hbelow := mul_le_mul_of_nonneg_left hkeep h.pos.le
  have habove := mul_le_mul_of_nonneg_left hkeep h.pos_right.le
  have hx := h.pos
  rw [abs_le]
  constructor
  · linarith [h.below]
  · linarith [h.above]

end Close

/-! ## Roundings -/

/-- One rounding. -/
theorem close_round {x : ℚ} (h : (2 : ℚ) ^ (-1025 : ℤ) ≤ x) : Close 1 x (roundMagnitude x) := by
  have hx : 0 < x := (two_zpow_pos _).trans_le h
  refine ⟨hx, by rw [pow_one]; exact roundMagnitude_ge h, ?_⟩
  have hle := mul_le_mul_of_nonneg_right (roundMagnitude_le h) one_sub_loss_pos.le
  have hsq := mul_pos hx (mul_pos loss_pos loss_pos)
  rw [pow_one]
  linarith

/-- `10 ^ 305` is well within the range of finite numbers. -/
theorem two_mul_ten_pow_lt : 2 * (10 : ℚ) ^ (305 : ℤ) < 2 ^ (1023 : ℤ) := by
  have hnat : (2 * 10 ^ 305 : ℕ) < 2 ^ 1023 := by decide +kernel
  have hrat : ((2 * 10 ^ 305 : ℕ) : ℚ) < ((2 ^ 1023 : ℕ) : ℚ) := Nat.cast_lt.2 hnat
  rw [Nat.cast_mul, Nat.cast_pow, Nat.cast_pow] at hrat
  exact hrat

/-- A number made of a magnitude that is close to `x` is finite, and close to `x` itself. -/
theorem ofMagnitude_close {s : Bool} {n : ℕ} {x y : ℚ} (h : Close n x y) (hn : n ≤ 400)
    (hlow : (10 : ℚ) ^ (-305 : ℤ) ≤ x) (hhigh : x ≤ 10 ^ (305 : ℤ)) :
    ∃ v, ofMagnitude s y = finite s v ∧ Close (n + 1) x v := by
  have hx := h.pos
  obtain ⟨hhalf, hdouble⟩ : x / 2 ≤ y ∧ y ≤ 2 * x := by
    obtain ⟨hbelow, habove⟩ := abs_le.1 (h.abs_sub_le hn)
    constructor
    · linarith
    · linarith
  have hmax : y < 2 ^ (1023 : ℤ) := by
    calc y ≤ 2 * x := hdouble
      _ ≤ 2 * 10 ^ (305 : ℤ) := mul_le_mul_of_nonneg_left hhigh (by norm_num)
      _ < 2 ^ (1023 : ℤ) := two_mul_ten_pow_lt
  have hmin : (2 : ℚ) ^ (-1025 : ℤ) ≤ y := by
    have hinv : (2 : ℚ) ^ (-1023 : ℤ) ≤ (2 * 10 ^ (305 : ℤ))⁻¹ := by
      rw [zpow_neg]
      exact inv_anti₀ (by positivity) two_mul_ten_pow_lt.le
    calc (2 : ℚ) ^ (-1025 : ℤ) ≤ 2 ^ (-1023 : ℤ) := two_zpow_le (by norm_num)
      _ ≤ 10 ^ (-305 : ℤ) / 2 := by rwa [zpow_neg 10, div_eq_mul_inv, ← mul_inv, mul_comm]
      _ ≤ x / 2 := div_le_div_of_nonneg_right hlow (by norm_num)
      _ ≤ y := hhalf
  have hgrid : OnGrid ((2 : ℚ) ^ (1023 : ℤ)) := by
    have := onGrid_zpow (n := 1) (e := 1023) (by norm_num) (by norm_num)
    rwa [Nat.cast_one, one_mul] at this
  refine ⟨_, ofMagnitude_of_le h.pos_right.le hgrid hmax.le ?_, h.trans (close_round hmin)⟩
  exact zpow_lt_zpow_right₀ (by norm_num) (by norm_num)

/-! ## Powers of ten -/

theorem ten_zpow_le {e f : ℤ} (h : e ≤ f) : (10 : ℚ) ^ e ≤ 10 ^ f :=
  zpow_le_zpow_right₀ (by norm_num) h

/-- A natural power of ten is off by at most one loss per factor. -/
theorem powTen_natCast_close {n : ℕ} (hn : n ≤ 308) :
    ∃ p, powTen n = finite false p ∧ Close n ((10 : ℚ) ^ (n : ℤ)) p := by
  obtain ⟨p, hp, -, hle⟩ := atMost_powTen (powTen_fits hn)
  refine ⟨p, hp, zpow_pos (by norm_num) _, ?_, ?_⟩
  · rcases atLeast_powTen n with hinf | ⟨p', hp', hge⟩
    · rw [hinf] at hp
      cases hp
    · rw [hp', finite.injEq] at hp
      obtain ⟨-, rfl⟩ := hp
      rwa [zpow_natCast, ← mul_pow]
  · have hpair : (1 + loss) * (1 - loss) ≤ 1 := by nlinarith [loss_pos]
    have hpair0 : 0 ≤ (1 + loss) * (1 - loss) :=
      mul_nonneg (by linarith [loss_pos]) one_sub_loss_pos.le
    calc p * (1 - loss) ^ n ≤ (10 * (1 + loss)) ^ n * (1 - loss) ^ n :=
          mul_le_mul_of_nonneg_right hle (pow_pos one_sub_loss_pos n).le
      _ = 10 ^ n * ((1 + loss) * (1 - loss)) ^ n := by rw [← mul_pow, ← mul_pow, mul_assoc]
      _ ≤ 10 ^ n * 1 := mul_le_mul_of_nonneg_left (pow_le_one₀ hpair0 hpair) (by positivity)
      _ = 10 ^ (n : ℤ) := by rw [mul_one, zpow_natCast]

/-- Powers of ten within 305 places are off by at most one loss per factor and one for the
reciprocal. -/
theorem powTen_close {e : ℤ} (hlow : -305 ≤ e) (hhigh : e ≤ 305) :
    ∃ p, powTen e = finite false p ∧ Close 306 ((10 : ℚ) ^ e) p := by
  rcases le_or_gt 0 e with he | he
  · obtain ⟨n, rfl⟩ := Int.eq_ofNat_of_zero_le he
    obtain ⟨p, hp, hclose⟩ := powTen_natCast_close (n := n) (by omega)
    exact ⟨p, hp, hclose.mono (by omega)⟩
  · obtain ⟨n, hn⟩ := Int.eq_ofNat_of_zero_le (neg_nonneg.2 he.le)
    obtain rfl : e = -(n : ℤ) := by omega
    obtain ⟨p, hp, hclose⟩ := powTen_natCast_close (n := n) (by omega)
    have hinv := hclose.inv
    rw [← zpow_neg] at hinv
    obtain ⟨q, hq, hround⟩ := ofMagnitude_close (s := false) hinv (by omega) (ten_zpow_le hlow)
      (ten_zpow_le hhigh)
    refine ⟨q, ?_, hround.mono (by omega)⟩
    rw [powTen_neg_natCast (by omega), hp, ← hq]
    simp only [div, if_neg hclose.pos_right.ne', one_div, bne_self_eq_false]

end Payables.Binary64
