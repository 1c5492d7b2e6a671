import Payables.Proofs.Binary64.Arithmetic

/-!
# Powers of ten in binary64 arithmetic

A power of ten is computed by repeated squaring, with one rounding per product.  Every factor ten
of the result is charged with one `loss`, whatever the order of the products: this is what the
loop keeps (`PowAtLeast`, `PowAtMost`), and `powLoop_rule` hands it to the result.

* `atLeast_powTen` — a power with a natural exponent is too small by at most one loss per factor,
  or it has overflowed.
* `powTen_neg_ge` — down to `10 ^ (-308)` a negative power is finite and keeps nearly all of its
  value.
-/

namespace Payables.Binary64

/-- A positive number that is at least `b`; it may have overflowed. -/
def AtLeast (x : Binary64) (b : ℚ) : Prop :=
  x = infinite false ∨ ∃ m, x = finite false m ∧ b ≤ m

/-- A finite number from one to `b`. -/
def AtMost (x : Binary64) (b : ℚ) : Prop := ∃ m, x = finite false m ∧ 1 ≤ m ∧ m ≤ b

theorem tiny_le_one : (2 : ℚ) ^ (-1025 : ℤ) ≤ 1 := by
  have := two_zpow_le (e := -1025) (f := 0) (by norm_num)
  simpa using this

theorem one_lt_overflowBound : (1 : ℚ) < overflowBound := by
  have h := natCast_lt_overflowBound (n := 1) (by norm_num)
  rwa [Nat.cast_one] at h

theorem onGrid_one : OnGrid 1 := by
  have := onGrid_natCast (n := 1) (by norm_num)
  rwa [Nat.cast_one] at this

/-! ## Products -/

/-- A product of numbers from one up loses at most one `loss`. -/
theorem AtLeast.mul {x y : Binary64} {b c : ℚ} (hx : AtLeast x b) (hy : AtLeast y c)
    (hb : 1 ≤ b) (hc : 1 ≤ c) : AtLeast (x.mul y) (b * (c * (1 - loss))) := by
  have hb0 : 0 < b := one_pos.trans_le hb
  have hc0 : 0 < c := one_pos.trans_le hc
  rcases hx with rfl | ⟨m, rfl, hm⟩ <;> rcases hy with rfl | ⟨n, rfl, hn⟩
  · exact Or.inl rfl
  · have hn0 : n ≠ 0 := (hc0.trans_le hn).ne'
    exact Or.inl (by simp [Binary64.mul, hn0])
  · have hm0 : m ≠ 0 := (hb0.trans_le hm).ne'
    exact Or.inl (by simp [Binary64.mul, hm0])
  · have hbc : b * c ≤ m * n := mul_le_mul hm hn hc0.le (hb0.le.trans hm)
    have hone : 1 ≤ m * n := (one_le_mul_of_one_le_of_one_le hb hc).trans hbc
    have hround : b * (c * (1 - loss)) ≤ roundMagnitude (m * n) := by
      have hl : 0 ≤ 1 - loss := by linarith [loss_lt]
      calc b * (c * (1 - loss)) = b * c * (1 - loss) := by ring
        _ ≤ m * n * (1 - loss) := mul_le_mul_of_nonneg_right hbc hl
        _ ≤ roundMagnitude (m * n) := roundMagnitude_ge (tiny_le_one.trans hone)
    rcases ofMagnitude_cases false (m * n) with ⟨-, -, heq⟩ | ⟨-, heq⟩
    · exact Or.inr ⟨_, heq, hround⟩
    · exact Or.inl heq

/-- A product of numbers from one up grows by at most one `loss`, as long as it fits. -/
theorem AtMost.mul {x y : Binary64} {b c : ℚ} (hx : AtMost x b) (hy : AtMost y c)
    (hfit : b * (c * (1 + loss)) < overflowBound) :
    AtMost (x.mul y) (b * (c * (1 + loss))) := by
  obtain ⟨m, rfl, hm1, hm⟩ := hx
  obtain ⟨n, rfl, hn1, hn⟩ := hy
  have hone : 1 ≤ m * n := one_le_mul_of_one_le_of_one_le hm1 hn1
  have hround : roundMagnitude (m * n) ≤ b * (c * (1 + loss)) := by
    have hl : 0 ≤ 1 + loss := by linarith [loss_pos]
    have hbc : m * n ≤ b * c := mul_le_mul hm hn (by linarith) (by linarith)
    calc roundMagnitude (m * n) ≤ m * n * (1 + loss) := roundMagnitude_le (tiny_le_one.trans hone)
      _ ≤ b * c * (1 + loss) := mul_le_mul_of_nonneg_right hbc hl
      _ = b * (c * (1 + loss)) := by ring
  rcases ofMagnitude_cases false (m * n) with ⟨-, -, heq⟩ | ⟨hge, -⟩
  · exact ⟨_, heq, onGrid_one.le_round hone, hround⟩
  · exact absurd (hround.trans_lt hfit) (not_lt.2 hge)

/-! ## Repeated squaring

The state of the loop is what it has collected, the current square and the exponent that is left. -/

/-- The rule of the loop: what the product for an odd exponent and the squaring for an even one keep
is known of the result. -/
theorem powLoop_rule {I : Binary64 → Binary64 → ℕ → Prop} {Q : Binary64 → Prop}
    (hdone : ∀ r a, I r a 0 → Q r) (hproduct : ∀ r a n, I r a (n + 1) → I (r.mul a) a n)
    (hsquare : ∀ r a n, n ≠ 0 → I r a (2 * n) → I r (a.mul a) n) {fuel n : ℕ} {r a : Binary64}
    (hn : n < 2 ^ fuel) (h : I r a n) : Q (powLoop fuel r a n) := by
  induction fuel generalizing n r a with
  | zero =>
    have hn0 : n = 0 := by simpa using hn
    subst hn0
    exact hdone r a h
  | succ fuel ih =>
    -- with its product, if it needs one, the exponent is twice its half
    have heven : I (if n % 2 = 1 then r.mul a else r) a (2 * (n / 2)) := by
      by_cases hodd : n % 2 = 1
      · rw [if_pos hodd]
        apply hproduct
        rwa [show 2 * (n / 2) + 1 = n by omega]
      · rw [if_neg hodd]
        rwa [show 2 * (n / 2) = n by omega]
    simp only [powLoop]
    by_cases hhalf : n / 2 = 0
    · rw [if_pos hhalf]
      rw [hhalf, mul_zero] at heven
      exact hdone _ _ heven
    · rw [if_neg hhalf]
      refine ih ?_ (hsquare _ _ _ hhalf heven)
      rw [pow_succ] at hn
      omega

/-- The invariant from below: with one loss for each factor that is still to come, the power is
`k`. -/
def PowAtLeast (k : ℚ) (r a : Binary64) (n : ℕ) : Prop :=
  ∃ b c, AtLeast r b ∧ AtLeast a c ∧ 1 ≤ b ∧ 1 ≤ c * (1 - loss) ∧ b * (c * (1 - loss)) ^ n = k

/-- The invariant from above, for a power `k` that fits. -/
def PowAtMost (k : ℚ) (r a : Binary64) (n : ℕ) : Prop :=
  ∃ b c, AtMost r b ∧ AtMost a c ∧ 1 ≤ b ∧ 1 ≤ c ∧ b * (c * (1 + loss)) ^ n = k

section

variable {k : ℚ} {r a : Binary64} {fuel n : ℕ}

theorem PowAtLeast.product (h : PowAtLeast k r a (n + 1)) : PowAtLeast k (r.mul a) a n := by
  obtain ⟨b, c, hr, ha, hb, hc, rfl⟩ := h
  have hc1 : 1 ≤ c := by nlinarith [loss_pos, loss_lt]
  refine ⟨b * (c * (1 - loss)), c, hr.mul ha hb hc1, ha, one_le_mul_of_one_le_of_one_le hb hc, hc,
    ?_⟩
  rw [mul_assoc, ← pow_succ']

theorem PowAtLeast.square (h : PowAtLeast k r a (2 * n)) : PowAtLeast k r (a.mul a) n := by
  obtain ⟨b, c, hr, ha, hb, hc, rfl⟩ := h
  have hc1 : 1 ≤ c := by nlinarith [loss_pos, loss_lt]
  have hsq : c * (c * (1 - loss)) * (1 - loss) = (c * (1 - loss)) ^ 2 := by ring
  refine ⟨b, c * (c * (1 - loss)), hr, ha.mul ha hc1 hc1, hb, ?_, ?_⟩
  · rw [hsq]
    exact one_le_pow₀ hc
  · rw [hsq, ← pow_mul]

/-- The loop from below: each factor costs at most one loss. -/
theorem atLeast_powLoop (hn : n < 2 ^ fuel) (h : PowAtLeast k r a n) :
    AtLeast (powLoop fuel r a n) k := by
  refine powLoop_rule (I := PowAtLeast k) (Q := fun x => AtLeast x k) ?_ ?_ ?_ hn h
  · rintro r a ⟨b, c, hr, -, -, -, rfl⟩
    rwa [pow_zero, mul_one]
  · intro r a n h
    exact h.product
  · intro r a n _ h
    exact h.square

theorem PowAtMost.product (hk : k < overflowBound) (h : PowAtMost k r a (n + 1)) :
    PowAtMost k (r.mul a) a n := by
  obtain ⟨b, c, hr, ha, hb, hc, rfl⟩ := h
  have hcl : 1 ≤ c * (1 + loss) := one_le_mul_of_one_le_of_one_le hc (by linarith [loss_pos])
  refine ⟨b * (c * (1 + loss)), c, hr.mul ha (lt_of_le_of_lt ?_ hk), ha,
    one_le_mul_of_one_le_of_one_le hb hcl, hc, ?_⟩
  · exact mul_le_mul_of_nonneg_left (le_self_pow₀ hcl (Nat.succ_ne_zero n)) (by linarith)
  · rw [mul_assoc, ← pow_succ']

/-- The square of the base fits as long as the exponent still needs it. -/
theorem PowAtMost.square (hk : k < overflowBound) (hn : n ≠ 0) (h : PowAtMost k r a (2 * n)) :
    PowAtMost k r (a.mul a) n := by
  obtain ⟨b, c, hr, ha, hb, hc, rfl⟩ := h
  have hl : 1 ≤ 1 + loss := by linarith [loss_pos]
  have hcl : 1 ≤ c * (1 + loss) := one_le_mul_of_one_le_of_one_le hc hl
  have hsq : c * (c * (1 + loss)) * (1 + loss) = (c * (1 + loss)) ^ 2 := by ring
  refine ⟨b, c * (c * (1 + loss)), hr, ha.mul ha (lt_of_le_of_lt ?_ hk), hb,
    one_le_mul_of_one_le_of_one_le hc hcl, ?_⟩
  · calc c * (c * (1 + loss)) ≤ c * (1 + loss) * (c * (1 + loss)) :=
          mul_le_mul_of_nonneg_right (le_mul_of_one_le_right (by linarith) hl) (by linarith)
      _ = (c * (1 + loss)) ^ 2 := by ring
      _ ≤ (c * (1 + loss)) ^ (2 * n) := pow_le_pow_right₀ hcl (by omega)
      _ ≤ b * (c * (1 + loss)) ^ (2 * n) := le_mul_of_one_le_left (by positivity) hb
  · rw [hsq, ← pow_mul]

/-- The loop from above, as long as the whole power fits. -/
theorem atMost_powLoop (hk : k < overflowBound) (hn : n < 2 ^ fuel) (h : PowAtMost k r a n) :
    AtMost (powLoop fuel r a n) k := by
  refine powLoop_rule (I := PowAtMost k) (Q := fun x => AtMost x k) ?_ ?_ ?_ hn h
  · rintro r a ⟨b, c, hr, -, -, -, rfl⟩
    rwa [pow_zero, mul_one]
  · intro r a n h
    exact h.product hk
  · intro r a n hne h
    exact h.square hk hne

end

/-! ## Powers of ten -/

theorem powTen_natCast (n : ℕ) :
    powTen n = powLoop (Nat.log2 n + 1) (finite false 1) (finite false 10) n := by
  have hneg : ¬((n : ℤ) < 0) := by omega
  simp only [powTen, hneg, if_false, Int.natAbs_natCast, ofNat_eq_finite (n := 1) (by norm_num),
    ofNat_eq_finite (n := 10) (by norm_num), Nat.cast_one, Nat.cast_ofNat]

theorem powTen_neg_natCast {n : ℕ} (hn : 0 < n) :
    powTen (-(n : ℤ)) = (finite false 1).div (powTen n) := by
  have hneg : -(n : ℤ) < 0 := by omega
  rw [powTen_natCast]
  simp only [powTen, hneg, if_true, Int.natAbs_neg, Int.natAbs_natCast,
    ofNat_eq_finite (n := 1) (by norm_num), ofNat_eq_finite (n := 10) (by norm_num), Nat.cast_one,
    Nat.cast_ofNat]

/-- A power of ten falls short by at most one loss per factor, or it has overflowed. -/
theorem atLeast_powTen (n : ℕ) : AtLeast (powTen n) ((10 * (1 - loss)) ^ n) := by
  rw [powTen_natCast]
  refine atLeast_powLoop Nat.lt_log2_self ⟨1, 10, ?_, ?_, le_rfl, ?_, one_mul _⟩
  · exact Or.inr ⟨1, rfl, le_rfl⟩
  · exact Or.inr ⟨10, rfl, le_rfl⟩
  · linarith [loss_lt]

/-- From ten on, what is left of a power is still nine or more. -/
theorem nine_le_of_powTen {n : ℕ} {s : Bool} {m : ℚ} (hn : n ≠ 0) (h : powTen n = finite s m) :
    9 ≤ m := by
  have hbase : (1 : ℚ) ≤ 10 * (1 - loss) := by linarith [loss_lt]
  rcases atLeast_powTen n with hinf | ⟨m', hm', hge⟩
  · rw [hinf] at h
    cases h
  · rw [hm', finite.injEq] at h
    obtain ⟨-, rfl⟩ := h
    have := le_self_pow₀ hbase hn
    linarith [loss_lt]

/-- A power of ten may overflow or vanish, but it is a number. -/
theorem powTen_isNaN (e : ℤ) : (powTen e).isNaN = false := by
  rcases le_or_gt 0 e with he | he
  · obtain ⟨n, rfl⟩ := Int.eq_ofNat_of_zero_le he
    rcases atLeast_powTen n with h | ⟨m, h, -⟩ <;> rw [h] <;> rfl
  · obtain ⟨n, hn⟩ := Int.eq_ofNat_of_zero_le (neg_nonneg.2 he.le)
    obtain rfl : e = -(n : ℤ) := by omega
    rw [powTen_neg_natCast (by omega)]
    rcases atLeast_powTen n with h | ⟨m, h, hm⟩ <;> rw [h]
    · rfl
    · have hbase : (0 : ℚ) < 10 * (1 - loss) := by linarith [loss_lt]
      have hm0 : m ≠ 0 := ((pow_pos hbase n).trans_le hm).ne'
      simp only [div, if_neg hm0]
      exact ofMagnitude_isNaN _ _

/-- A power of ten exceeds its value by at most one loss per factor, as long as it fits. -/
theorem atMost_powTen {n : ℕ} (h : (10 * (1 + loss)) ^ n < overflowBound) :
    AtMost (powTen n) ((10 * (1 + loss)) ^ n) := by
  rw [powTen_natCast]
  refine atMost_powLoop h Nat.lt_log2_self ⟨1, 10, ?_, ?_, le_rfl, by norm_num, one_mul _⟩
  · exact ⟨1, rfl, le_rfl, le_rfl⟩
  · exact ⟨10, rfl, by norm_num, le_rfl⟩

/-- With the losses of all its factors, `10 ^ 308` still fits. -/
theorem powTen_fits {n : ℕ} (hn : n ≤ 308) : (10 * (1 + loss)) ^ n < 2 ^ (1024 : ℤ) := by
  have hbase : (1 : ℚ) ≤ 10 * (1 + loss) := by linarith [loss_pos]
  have hroot : (10 * (1 + loss)) ^ 77 < (2 : ℚ) ^ 256 := by norm_num [loss]
  calc (10 * (1 + loss)) ^ n ≤ (10 * (1 + loss)) ^ (77 * 4) := pow_le_pow_right₀ hbase hn
    _ = ((10 * (1 + loss)) ^ 77) ^ 4 := pow_mul _ _ _
    _ < ((2 : ℚ) ^ 256) ^ 4 := pow_lt_pow_left₀ hroot (by positivity) (by norm_num)
    _ = 2 ^ (1024 : ℤ) := by rw [← pow_mul]; rfl

/-- A negative power of ten, down to `10 ^ (-308)`, is finite and keeps nearly all of its value. -/
theorem powTen_neg_ge {n : ℕ} (hn : n ≤ 308) :
    ∃ p, powTen (-(n : ℤ)) = finite false p ∧ (10 : ℚ)⁻¹ ^ n * (1 - loss) ^ (n + 1) ≤ p := by
  have hl0 := loss_pos
  have hl1 := loss_lt
  rcases Nat.eq_zero_or_pos n with rfl | hpos
  · have hone : powTen (-((0 : ℕ) : ℤ)) = finite false 1 := by
      rw [Nat.cast_zero, neg_zero, ← Nat.cast_zero, powTen_natCast]
      simp [powLoop]
    exact ⟨1, hone, by simpa using hl0.le⟩
  obtain ⟨y, hy, hy1, hyle⟩ := atMost_powTen (powTen_fits hn)
  have hy0 : 0 < y := one_pos.trans_le hy1
  have hinv1 : y⁻¹ ≤ 1 := inv_le_one_of_one_le₀ hy1
  have hinv : (10 : ℚ)⁻¹ ^ n * (1 - loss) ^ n ≤ y⁻¹ := by
    have hgap : 1 - loss ≤ (1 + loss)⁻¹ := by
      rw [le_inv_comm₀ (by linarith) (by linarith)]
      rw [le_inv_comm₀ (by linarith) (by linarith), inv_eq_one_div, le_div_iff₀ (by linarith)]
      nlinarith
    calc (10 : ℚ)⁻¹ ^ n * (1 - loss) ^ n = (10⁻¹ * (1 - loss)) ^ n := by rw [mul_pow]
      _ ≤ (10⁻¹ * (1 + loss)⁻¹) ^ n := by
          refine pow_le_pow_left₀ (mul_nonneg (by norm_num) (by linarith)) ?_ n
          exact mul_le_mul_of_nonneg_left hgap (by norm_num)
      _ = ((10 * (1 + loss)) ^ n)⁻¹ := by rw [← mul_inv, inv_pow]
      _ ≤ y⁻¹ := inv_anti₀ hy0 hyle
  have htiny : (2 : ℚ) ^ (-1025 : ℤ) ≤ y⁻¹ := by
    have hbig : y ≤ 2 ^ (1025 : ℤ) :=
      hyle.trans ((powTen_fits hn).le.trans (two_zpow_le (by norm_num)))
    have := inv_anti₀ hy0 hbig
    rwa [← zpow_neg] at this
  have hval : powTen (-(n : ℤ)) = finite false (roundMagnitude y⁻¹) := by
    rw [powTen_neg_natCast hpos, hy]
    simp only [div, if_neg hy0.ne', one_div, bne_self_eq_false]
    exact ofMagnitude_of_le (inv_nonneg.2 hy0.le) onGrid_one hinv1 one_lt_overflowBound
  refine ⟨_, hval, ?_⟩
  calc (10 : ℚ)⁻¹ ^ n * (1 - loss) ^ (n + 1)
      = (10 : ℚ)⁻¹ ^ n * (1 - loss) ^ n * (1 - loss) := by rw [pow_succ, mul_assoc]
    _ ≤ y⁻¹ * (1 - loss) := mul_le_mul_of_nonneg_right hinv (by linarith)
    _ ≤ roundMagnitude y⁻¹ := roundMagnitude_ge htiny

end Payables.Binary64
