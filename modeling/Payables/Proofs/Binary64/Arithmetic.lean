import Payables.Proofs.Binary64.Rounding

/-!
# Arithmetic of binary64 numbers

The operations of `Binary64` seen through the exact magnitudes of their operands.

* `mul_lt_of_lt`, `div_lt_of_lt`, `round_lt_of_lt` — a bound on a result is a bound on the exact
  operands, as long as the bound itself is a binary64 number: rounding does not cross it.
* `toNat_floor_round_mono` — a larger product counts no fewer points.
* `lt_trans`, `lt_irrefl` — comparison is a strict order, NaN standing apart.
* `mul_isNaN_iff` — how a product of numbers stops being a number.
* `ofNat_eq_finite` — small natural numbers are exact.
-/

namespace Payables.Binary64

/-! ## Making numbers -/

/-- A number of the grid: rounding leaves it alone. -/
def OnGrid (q : ℚ) : Prop := 0 ≤ q ∧ roundMagnitude q = q

theorem onGrid_zpow {n : ℕ} {e : ℤ} (hn : n < 2 ^ 53) (he : -1074 ≤ e) : OnGrid (n * 2 ^ e) :=
  ⟨mul_nonneg (Nat.cast_nonneg n) (two_zpow_pos e).le, roundMagnitude_of_grid hn he⟩

theorem onGrid_natCast {n : ℕ} (hn : n < 2 ^ 53) : OnGrid n :=
  ⟨Nat.cast_nonneg n, roundMagnitude_natCast hn⟩

/-- Binary fractions of few digits are on the grid. -/
theorem onGrid_of_mul_two_pow {q : ℚ} {n k : ℕ} (hn : n < 2 ^ 53) (hk : k ≤ 1074)
    (h : q * 2 ^ k = n) : OnGrid q := by
  have hq : q = n * 2 ^ (-(k : ℤ)) := by
    rw [← h, zpow_neg, zpow_natCast, mul_assoc, mul_inv_cancel₀ (by positivity), mul_one]
  rw [hq]
  exact onGrid_zpow hn (by omega)

theorem natCast_lt_overflowBound {n : ℕ} (hn : n < 2 ^ 53) : (n : ℚ) < overflowBound := by
  calc (n : ℚ) < 2 ^ (53 : ℤ) := by exact_mod_cast hn
    _ ≤ overflowBound := two_zpow_le (by norm_num)

theorem onGrid_overflowBound : OnGrid overflowBound := by
  have h := onGrid_zpow (n := 1) (e := 1024) (by norm_num) (by norm_num)
  rwa [Nat.cast_one, one_mul] at h

/-- What lies below a number of the grid once rounded lay below it before. -/
theorem OnGrid.lt_of_round_lt {b q : ℚ} (hb : OnGrid b) (h : roundMagnitude q < b) : q < b := by
  by_contra hle
  have hge : b ≤ roundMagnitude q := by
    calc b = roundMagnitude b := hb.2.symm
      _ ≤ roundMagnitude q := roundMagnitude_mono hb.1 (not_lt.1 hle)
  exact absurd h (not_lt.2 hge)

/-- What lies at or below a number of the grid stays there when it is rounded. -/
theorem OnGrid.round_le {b q : ℚ} (hb : OnGrid b) (hq : 0 ≤ q) (h : q ≤ b) :
    roundMagnitude q ≤ b := by
  calc roundMagnitude q ≤ roundMagnitude b := roundMagnitude_mono hq h
    _ = b := hb.2

/-- What lies at or above a number of the grid stays there when it is rounded. -/
theorem OnGrid.le_round {b q : ℚ} (hb : OnGrid b) (h : b ≤ q) : b ≤ roundMagnitude q := by
  calc b = roundMagnitude b := hb.2.symm
    _ ≤ roundMagnitude q := roundMagnitude_mono hb.1 h

/-- The two outcomes of making a number: it fits, or it is too large. -/
theorem ofMagnitude_cases (s : Bool) (q : ℚ) :
    (q < overflowBound ∧ roundMagnitude q < overflowBound ∧
        ofMagnitude s q = finite s (roundMagnitude q)) ∨
      (overflowBound ≤ roundMagnitude q ∧ ofMagnitude s q = infinite s) := by
  simp only [ofMagnitude]
  split
  · rename_i h
    exact Or.inl ⟨onGrid_overflowBound.lt_of_round_lt h, h, rfl⟩
  · rename_i h
    exact Or.inr ⟨not_lt.1 h, rfl⟩

theorem ofMagnitude_eq_finite {s t : Bool} {q m : ℚ} (h : ofMagnitude s q = finite t m) :
    t = s ∧ m = roundMagnitude q ∧ m < overflowBound := by
  rcases ofMagnitude_cases s q with ⟨-, hlt, heq⟩ | ⟨-, heq⟩
  · rw [heq] at h
    cases h
    exact ⟨rfl, rfl, hlt⟩
  · rw [heq] at h
    cases h

theorem ofMagnitude_of_le {s : Bool} {q b : ℚ} (hq : 0 ≤ q) (hb : OnGrid b) (h : q ≤ b)
    (hlt : b < overflowBound) : ofMagnitude s q = finite s (roundMagnitude q) := by
  simp only [ofMagnitude]
  rw [if_pos ((hb.round_le hq h).trans_lt hlt)]

theorem ratAbs_eq_abs (q : ℚ) : ratAbs q = |q| := by
  unfold ratAbs
  split
  · rename_i h
    rw [abs_of_neg h]
  · rename_i h
    rw [abs_of_nonneg (not_lt.1 h)]

theorem ofRat_of_nonneg {q : ℚ} (h : 0 ≤ q) : ofRat q = ofMagnitude false q := by
  rw [ofRat, ratAbs_eq_abs, abs_of_nonneg h, decide_eq_false (not_lt.2 h)]

theorem ofInt_eq_ofMagnitude (n : ℤ) : ofInt n = ofMagnitude (decide (n < 0)) n.natAbs := by
  simp [ofInt, ofRat, ratAbs_eq_abs, Nat.cast_natAbs]

/-- Integers of up to 53 binary digits are exact. -/
theorem ofInt_eq_finite {n : ℤ} (hn : n.natAbs < 2 ^ 53) :
    ofInt n = finite (decide (n < 0)) n.natAbs := by
  rw [ofInt_eq_ofMagnitude, ofMagnitude_of_le (Nat.cast_nonneg _) (onGrid_natCast hn) le_rfl
    (natCast_lt_overflowBound hn), roundMagnitude_natCast hn]

theorem ofNat_eq_finite {n : ℕ} (hn : n < 2 ^ 53) : ofNat n = finite false n :=
  ofInt_eq_finite (n := n) (by simpa using hn)

/-- The byte of a whole number that is not negative. -/
theorem toNat_toUInt8_finite (k : ℤ) : (finite false (k : ℚ)).toUInt8.toNat = min k.toNat 255 := by
  simp only [toUInt8, Rat.floor_intCast, Bool.false_eq_true, if_false, UInt8.toNat_ofNat']
  omega

/-- A whole number moved into a range of bytes. -/
theorem toNat_clamp {n : ℕ} (hn : n ≤ 255) (k : ℤ) :
    ((finite false (k : ℚ)).clamp zero (finite false n)).toUInt8.toNat = min k.toNat n := by
  have hlow : (finite false (k : ℚ)).lt zero = decide (k < 0) := by
    simp [lt, zero, value]
  have hhigh : (finite false n).lt (finite false (k : ℚ)) = decide ((n : ℤ) < k) := by
    simp only [lt, value, Bool.false_eq_true, if_false, decide_eq_decide]
    exact_mod_cast Iff.rfl
  rw [clamp, hlow, hhigh]
  by_cases hk : k < 0
  · have hzero : zero.toUInt8.toNat = 0 := rfl
    rw [decide_eq_true hk, if_pos rfl, hzero]
    omega
  · rw [decide_eq_false hk, if_neg Bool.false_ne_true]
    by_cases hnk : (n : ℤ) < k
    · have hmax : (finite false (n : ℚ)).toUInt8.toNat = min n 255 := toNat_toUInt8_finite n
      rw [decide_eq_true hnk, if_pos rfl, hmax]
      omega
    · rw [decide_eq_false hnk, if_neg Bool.false_ne_true, toNat_toUInt8_finite]
      omega

/-! ## Whole points

A product that counts points is rounded to a number of the format first and to a whole number
then. -/

/-- What overflows is larger than any small number, rounded or not. -/
theorem floor_ge_of_overflow {n : ℕ} {q : ℚ} (hn : n < 2 ^ 53) (h : overflowBound ≤ q) :
    n ≤ (q + 1 / 2).floor.toNat := by
  have hfloor : (n : ℤ) ≤ (q + 1 / 2).floor := by
    rw [Rat.le_floor_iff, Int.cast_natCast]
    linarith [natCast_lt_overflowBound hn]
  omega

/-- What is below zero is rounded to nothing. -/
theorem floor_lt_one_of_neg {q : ℚ} (h : q < 0) : (roundMagnitude q + 1 / 2).floor < 1 := by
  have hround := roundMagnitude_le_of_multiple (q := q) (n := 0)
    (by rw [Int.cast_zero, zero_mul]; linarith)
  rw [Int.cast_zero, zero_mul] at hround
  rw [Rat.floor_lt_iff]
  push_cast
  linarith

/-- Both roundings keep the order; below zero, where the first one need not, there are no points. -/
theorem toNat_floor_round_mono {x y : ℚ} (h : x ≤ y) :
    (roundMagnitude x + 1 / 2).floor.toNat ≤ (roundMagnitude y + 1 / 2).floor.toNat := by
  rcases le_or_gt 0 x with h0 | h0
  · have hround : roundMagnitude x ≤ roundMagnitude y := roundMagnitude_mono h0 h
    have hfloor : (roundMagnitude x + 1 / 2).floor ≤ (roundMagnitude y + 1 / 2).floor :=
      Rat.floor_monotone (by linarith)
    omega
  · have hnone := floor_lt_one_of_neg h0
    omega

/-! ## Comparison -/

theorem le_finite {s t : Bool} {a b : ℚ} :
    (finite s a).le (finite t b) = true ↔ (finite s a).value ≤ (finite t b).value := by
  simp [le, lt, eqv, le_iff_lt_or_eq]

/-- Numbers are comparable. -/
theorem le_of_lt_eq_false {x y : Binary64} (hx : x.isNaN = false) (hy : y.isNaN = false)
    (h : y.lt x = false) : x.le y = true := by
  cases x with
  | nan => cases hx
  | infinite s =>
    cases y with
    | nan => cases hy
    | infinite t => cases s <;> cases t <;> simp_all [le, lt, eqv]
    | finite t n => simp_all [le, lt, eqv]
  | finite s m =>
    cases y with
    | nan => cases hy
    | infinite t => simp_all [le, lt, eqv]
    | finite t n =>
      rw [le_finite]
      simpa [lt] using h

theorem lt_eq_false_of_le {x y : Binary64} (h : x.le y = true) : y.lt x = false := by
  cases x with
  | nan => cases h
  | infinite s =>
    cases y with
    | nan => rfl
    | infinite t => cases s <;> cases t <;> simp_all [le, lt, eqv]
    | finite t n => cases s <;> simp_all [le, lt, eqv]
  | finite s m =>
    cases y with
    | nan => rfl
    | infinite t => cases t <;> simp_all [le, lt, eqv]
    | finite t n =>
      rw [le_finite] at h
      simpa [lt] using h

theorem le_nan (x : Binary64) : x.le nan = false := by
  cases x <;> rfl

/-- Only numbers are in order. -/
theorem isNaN_of_le {x y : Binary64} (h : x.le y = true) : x.isNaN = false ∧ y.isNaN = false := by
  cases x with
  | nan => cases h
  | infinite s =>
    cases y with
    | nan => cases h
    | infinite t => exact ⟨rfl, rfl⟩
    | finite t n => exact ⟨rfl, rfl⟩
  | finite s m =>
    cases y with
    | nan => cases h
    | infinite t => exact ⟨rfl, rfl⟩
    | finite t n => exact ⟨rfl, rfl⟩

/-- Comparison is transitive: NaN is below nothing. -/
theorem lt_trans {x y z : Binary64} (hxy : x.lt y = true) (hyz : y.lt z = true) :
    x.lt z = true := by
  cases x <;> cases y <;> cases z <;> simp_all [lt]
  exact hxy.trans hyz

theorem lt_irrefl (x : Binary64) : x.lt x = false := by
  cases x <;> simp [lt]

theorem le_of_lt {x y : Binary64} (h : x.lt y = true) : x.le y = true := by
  rw [le, h, Bool.true_or]

theorem le_trans {x y z : Binary64} (hxy : x.le y = true) (hyz : y.le z = true) :
    x.le z = true := by
  cases x <;> cases y <;> cases z <;> simp_all [le, lt, eqv]
  · -- three infinities
    grind
  · -- three finite numbers
    rw [← le_iff_lt_or_eq] at *
    exact hxy.trans hyz

theorem isFinite_iff {x : Binary64} : x.isFinite = true ↔ ∃ s m, x = finite s m := by
  cases x <;> simp [isFinite]

theorem isNaN_iff {x : Binary64} : x.isNaN = true ↔ x = nan := by
  cases x <;> simp [isNaN]

theorem abs_isNaN (x : Binary64) : x.abs.isNaN = x.isNaN := by
  cases x <;> rfl

theorem abs_isNegative (x : Binary64) : x.abs.isNegative = false := by
  cases x <;> rfl

theorem max_isNegative {x y : Binary64} (hx : x.isNegative = false) (hy : y.isNegative = false) :
    (x.max y).isNegative = false := by
  unfold Binary64.max
  split
  · exact hy
  · split
    · exact hy
    · exact hx

/-! ## When a result is not a number -/

theorem ofMagnitude_isNaN (s : Bool) (q : ℚ) : (ofMagnitude s q).isNaN = false := by
  rcases ofMagnitude_cases s q with ⟨-, -, h⟩ | ⟨-, h⟩ <;> rw [h] <;> rfl

theorem ofInt_isNaN (n : ℤ) : (ofInt n).isNaN = false := by
  rw [ofInt_eq_ofMagnitude]
  exact ofMagnitude_isNaN _ _

/-- A product of numbers is NaN only between an infinite one and a zero. -/
theorem mul_isNaN_iff {x y : Binary64} (hx : x.isNaN = false) (hy : y.isNaN = false) :
    (x.mul y).isNaN = true ↔
      (∃ s t, x = infinite s ∧ y = finite t 0) ∨ ∃ s t, x = finite s 0 ∧ y = infinite t := by
  cases x with
  | nan => cases hx
  | infinite s =>
    cases y with
    | nan => cases hy
    | infinite t => simp [mul, isNaN]
    | finite t n => by_cases hn : n = 0 <;> simp [mul, isNaN, hn]
  | finite s m =>
    cases y with
    | nan => cases hy
    | infinite t => by_cases hm : m = 0 <;> simp [mul, isNaN, hm]
    | finite t n => simp [mul, ofMagnitude_isNaN]

theorem mul_finite_isNaN {t : Bool} {d : ℚ} (hd : d ≠ 0) (x : Binary64) :
    (x.mul (finite t d)).isNaN = x.isNaN := by
  cases x with
  | nan => rfl
  | infinite s => simp [mul, isNaN, hd]
  | finite s m => exact ofMagnitude_isNaN _ _

theorem div_finite_isNaN {t : Bool} {d : ℚ} (hd : d ≠ 0) (x : Binary64) :
    (x.div (finite t d)).isNaN = x.isNaN := by
  cases x with
  | nan => rfl
  | infinite s => rfl
  | finite s m =>
    simp only [div, if_neg hd]
    exact ofMagnitude_isNaN _ _

@[simp] theorem round_isNaN (x : Binary64) : x.round.isNaN = x.isNaN := by
  cases x <;> rfl

/-! ## Bounds on results

`b` is a number of the grid, so that rounding a result does not carry it across `b`. -/

/-- A product below `b` has finite factors whose exact product is below `b`. -/
theorem mul_lt_of_lt {x y : Binary64} {s : Bool} {m b : ℚ} (hb : OnGrid b)
    (h : x.mul y = finite s m) (hm : m < b) :
    ∃ s₁ c s₂ d, x = finite s₁ c ∧ y = finite s₂ d ∧ c * d < b := by
  cases x with
  | nan => simp [mul] at h
  | infinite s₁ =>
    cases y with
    | nan => simp [mul] at h
    | infinite s₂ => simp [mul] at h
    | finite s₂ d =>
      simp only [mul] at h
      split at h <;> cases h
  | finite s₁ c =>
    cases y with
    | nan => simp [mul] at h
    | infinite s₂ =>
      simp only [mul] at h
      split at h <;> cases h
    | finite s₂ d =>
      obtain ⟨-, rfl, -⟩ := ofMagnitude_eq_finite h
      exact ⟨s₁, c, s₂, d, rfl, rfl, hb.lt_of_round_lt hm⟩

/-- A quotient below `b` of a number by a finite one that is not zero has an exact value below
`b`. -/
theorem div_lt_of_lt {x : Binary64} {s t : Bool} {m b d : ℚ} (hb : OnGrid b) (hd : d ≠ 0)
    (h : x.div (finite t d) = finite s m) (hm : m < b) :
    ∃ s₁ c, x = finite s₁ c ∧ c / d < b := by
  cases x with
  | nan => simp [div] at h
  | infinite s₁ => simp [div] at h
  | finite s₁ c =>
    simp only [div, if_neg hd] at h
    obtain ⟨-, rfl, -⟩ := ofMagnitude_eq_finite h
    exact ⟨s₁, c, rfl, hb.lt_of_round_lt hm⟩

theorem round_eq_finite {x : Binary64} {s : Bool} {m : ℚ} (h : x.round = finite s m) :
    ∃ c, x = finite s c ∧ m = ((c + 1 / 2).floor : ℚ) := by
  cases x with
  | nan => simp [round] at h
  | infinite t => simp [round] at h
  | finite t c =>
    simp only [round, finite.injEq] at h
    obtain ⟨rfl, rfl⟩ := h
    exact ⟨c, rfl, rfl⟩

/-- A rounded number below the integer `n` lay below the half before `n`. -/
theorem round_lt_of_lt {x : Binary64} {s : Bool} {m : ℚ} {n : ℤ} (h : x.round = finite s m)
    (hm : m < n) : ∃ c, x = finite s c ∧ c < n - 1 / 2 := by
  obtain ⟨c, rfl, rfl⟩ := round_eq_finite h
  refine ⟨c, rfl, ?_⟩
  have hfloor : (c + 1 / 2).floor < n := by exact_mod_cast hm
  have := Rat.floor_lt_iff.1 hfloor
  linarith

end Payables.Binary64
