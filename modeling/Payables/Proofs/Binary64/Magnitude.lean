import Payables.Proofs.Binary64.PowerOfTen
import Payables.Binary64.Text

/-!
# Magnitudes

A finite number is a sign and a magnitude, and a magnitude is not negative.  `Proper` says so, and
it is kept by every operation that a percentage goes through: products, quotients, rounding, the
powers of ten and the conversion of decimals.
-/

namespace Payables

namespace Binary64

/-- The magnitude of a finite number is not negative. -/
def Proper (x : Binary64) : Prop := ∀ s m, x = finite s m → 0 ≤ m

theorem proper_nan : nan.Proper := by
  intro s m h
  cases h

theorem proper_infinite (s : Bool) : (infinite s).Proper := by
  intro t m h
  cases h

theorem proper_finite {s : Bool} {m : ℚ} (h : 0 ≤ m) : (finite s m).Proper := by
  rintro _ _ ⟨⟩
  exact h

theorem proper_ofMagnitude (s : Bool) {q : ℚ} (h : 0 ≤ q) : (ofMagnitude s q).Proper := by
  rcases ofMagnitude_cases s q with ⟨-, -, heq⟩ | ⟨-, heq⟩
  · rw [heq]
    exact proper_finite (roundMagnitude_nonneg h)
  · rw [heq]
    exact proper_infinite s

theorem proper_ofInt (n : ℤ) : (ofInt n).Proper := by
  rw [ofInt_eq_ofMagnitude]
  exact proper_ofMagnitude _ (Nat.cast_nonneg _)

theorem Proper.mul {x y : Binary64} (hx : x.Proper) (hy : y.Proper) : (x.mul y).Proper := by
  cases x with
  | nan => exact proper_nan
  | infinite s =>
    cases y with
    | nan => exact proper_nan
    | infinite t => exact proper_infinite _
    | finite t n =>
      simp only [Binary64.mul]
      split
      · exact proper_nan
      · exact proper_infinite _
  | finite s m =>
    cases y with
    | nan => exact proper_nan
    | infinite t =>
      simp only [Binary64.mul]
      split
      · exact proper_nan
      · exact proper_infinite _
    | finite t n => exact proper_ofMagnitude _ (mul_nonneg (hx s m rfl) (hy t n rfl))

theorem Proper.div {x y : Binary64} (hx : x.Proper) (hy : y.Proper) : (x.div y).Proper := by
  cases x with
  | nan => exact proper_nan
  | infinite s =>
    cases y with
    | nan => exact proper_nan
    | infinite t => exact proper_nan
    | finite t n => exact proper_infinite _
  | finite s m =>
    cases y with
    | nan => exact proper_nan
    | infinite t => exact proper_finite le_rfl
    | finite t n =>
      simp only [Binary64.div]
      split
      · split
        · exact proper_nan
        · exact proper_infinite _
      · exact proper_ofMagnitude _ (div_nonneg (hx s m rfl) (hy t n rfl))

/-- A power of ten is one up from one, or the reciprocal of such a power. -/
theorem proper_powTen (e : ℤ) : (powTen e).Proper := by
  have hnat : ∀ n : ℕ, (powTen n).Proper := by
    intro n
    rcases atLeast_powTen n with h | ⟨m, h, hm⟩ <;> rw [h]
    · exact proper_infinite false
    · have hbase : (0 : ℚ) ≤ 10 * (1 - loss) := by linarith [loss_lt]
      exact proper_finite ((pow_nonneg hbase n).trans hm)
  rcases le_or_gt 0 e with he | he
  · obtain ⟨n, rfl⟩ := Int.eq_ofNat_of_zero_le he
    exact hnat n
  · obtain ⟨n, hn⟩ := Int.eq_ofNat_of_zero_le (neg_nonneg.2 he.le)
    obtain rfl : e = -(n : ℤ) := by omega
    rw [powTen_neg_natCast (by omega)]
    exact (proper_finite zero_le_one).div (hnat n)

end Binary64

theorem Decimal.proper_toBinary64 (d : Decimal) : d.toBinary64.Proper :=
  (Binary64.proper_ofInt d.coeff).mul (Binary64.proper_powTen _)

end Payables
