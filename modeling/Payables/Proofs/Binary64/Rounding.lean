import Mathlib
import Payables.Binary64.Basic

/-!
# Rounding to binary64

What the arithmetic of percentages relies on: rounding a magnitude to its last binary place is
monotone, leaves the numbers of the grid alone, and misses by at most half a place.

* `pow_floorLog2_le`, `lt_pow_floorLog2` — the exponent of a magnitude really brackets it.
* `roundTiesEven_le`, `le_roundTiesEven`, `roundTiesEven_mono` — rounding to an integer never
  crosses an integer.
* `roundMagnitude_mono` — rounding is monotone.  Inside one binade this is the monotonicity of
  `roundTiesEven`; between two binades a power of two stands between the results.
* `roundMagnitude_of_grid` — a multiple of a binary place that fits the 53 digits is kept.
* `abs_roundMagnitude_sub_le_mul` — down to the least powers of ten a rounding loses at most the
  fraction `loss` of a magnitude.
-/

namespace Payables.Binary64

/-! ## Powers of two -/

theorem two_zpow_pos (e : ℤ) : (0 : ℚ) < 2 ^ e := zpow_pos (by norm_num) e

theorem two_zpow_le {e f : ℤ} (h : e ≤ f) : (2 : ℚ) ^ e ≤ 2 ^ f :=
  zpow_le_zpow_right₀ (by norm_num) h

theorem two_zpow_add (e f : ℤ) : (2 : ℚ) ^ (e + f) = 2 ^ e * 2 ^ f :=
  zpow_add₀ (by norm_num) e f

theorem two_zpow_sub_one (e : ℤ) : (2 : ℚ) ^ (e - 1) = 2 ^ e / 2 :=
  zpow_sub_one₀ (by norm_num) e

/-- A power of two is a whole multiple of every smaller one. -/
theorem two_zpow_div {e f : ℤ} (h : e ≤ f) : ∃ n : ℤ, (2 : ℚ) ^ f / 2 ^ e = n := by
  refine ⟨2 ^ (f - e).toNat, ?_⟩
  have hfe : (((f - e).toNat : ℕ) : ℤ) = f - e := Int.toNat_of_nonneg (by omega)
  rw [← zpow_sub₀ (by norm_num), ← hfe, zpow_natCast]
  push_cast
  rfl

/-! ## The exponent of a magnitude -/

/-- The exponent is one of two neighbours, and the test picks the right one. -/
theorem floorLog2_spec {q : ℚ} (hq : 0 < q) :
    (2 : ℚ) ^ floorLog2 q ≤ q ∧ q < 2 ^ (floorLog2 q + 1) := by
  have hden : (0 : ℚ) < q.den := by exact_mod_cast q.den_pos
  have hnum : 0 < q.num := Rat.num_pos.2 hq
  have hmul : q * q.den = (q.num.natAbs : ℚ) := by
    rw [Rat.mul_den_eq_num, Nat.cast_natAbs, abs_of_pos hnum]
  have hn0 : q.num.natAbs ≠ 0 := by omega
  -- numerator and denominator lie in their own binades
  have hn1 : (2 : ℚ) ^ (Nat.log2 q.num.natAbs : ℤ) ≤ q * q.den := by
    rw [hmul, zpow_natCast]
    exact_mod_cast Nat.log2_self_le hn0
  have hn2 : q * q.den < (2 : ℚ) ^ ((Nat.log2 q.num.natAbs : ℤ) + 1) := by
    rw [hmul]
    exact_mod_cast Nat.lt_log2_self (n := q.num.natAbs)
  have hd1 : (2 : ℚ) ^ (Nat.log2 q.den : ℤ) ≤ q.den := by
    rw [zpow_natCast]
    exact_mod_cast Nat.log2_self_le q.den_nz
  have hd2 : (q.den : ℚ) < 2 ^ ((Nat.log2 q.den : ℤ) + 1) := by
    exact_mod_cast Nat.lt_log2_self (n := q.den)
  set a : ℤ := ((Nat.log2 q.num.natAbs : ℕ) : ℤ)
  set b : ℤ := ((Nat.log2 q.den : ℕ) : ℤ)
  have hlow : (2 : ℚ) ^ (a - b - 1) < q := by
    refine lt_of_mul_lt_mul_right ?_ hden.le
    calc (2 : ℚ) ^ (a - b - 1) * q.den < 2 ^ (a - b - 1) * 2 ^ (b + 1) :=
          mul_lt_mul_of_pos_left hd2 (two_zpow_pos _)
      _ = 2 ^ a := by rw [← two_zpow_add]; congr 1; ring
      _ ≤ q * q.den := hn1
  have hhigh : q < (2 : ℚ) ^ (a - b + 1) := by
    refine lt_of_mul_lt_mul_right ?_ hden.le
    calc q * q.den < 2 ^ (a + 1) := hn2
      _ = 2 ^ (a - b + 1) * 2 ^ b := by rw [← two_zpow_add]; congr 1; ring
      _ ≤ 2 ^ (a - b + 1) * q.den := mul_le_mul_of_nonneg_left hd1 (two_zpow_pos _).le
  have hdef : floorLog2 q = if (2 : ℚ) ^ (a - b) ≤ q then a - b else a - b - 1 := rfl
  rw [hdef]
  split
  · exact ⟨by assumption, hhigh⟩
  · refine ⟨hlow.le, ?_⟩
    rw [sub_add_cancel]
    exact not_le.1 (by assumption)

theorem pow_floorLog2_le {q : ℚ} (hq : 0 < q) : (2 : ℚ) ^ floorLog2 q ≤ q := (floorLog2_spec hq).1

theorem lt_pow_floorLog2 {q : ℚ} (hq : 0 < q) : q < 2 ^ (floorLog2 q + 1) := (floorLog2_spec hq).2

/-- A larger magnitude has no smaller exponent. -/
theorem floorLog2_mono {x y : ℚ} (hx : 0 < x) (h : x ≤ y) : floorLog2 x ≤ floorLog2 y := by
  by_contra hlt
  have hxy : y < x := by
    calc y < 2 ^ (floorLog2 y + 1) := lt_pow_floorLog2 (hx.trans_le h)
      _ ≤ 2 ^ floorLog2 x := two_zpow_le (by omega)
      _ ≤ x := pow_floorLog2_le hx
  exact absurd h (not_le.2 hxy)

/-- A power of two above a magnitude bounds its exponent from above. -/
theorem floorLog2_lt {q : ℚ} {e : ℤ} (hq : 0 < q) (h : q < (2 : ℚ) ^ e) : floorLog2 q < e := by
  by_contra hge
  have : (2 : ℚ) ^ e ≤ q := (two_zpow_le (by omega)).trans (pow_floorLog2_le hq)
  exact absurd h (not_lt.2 this)

/-! ## Rounding to an integer -/

theorem floor_frac (q : ℚ) : (q.floor : ℚ) ≤ q ∧ q < q.floor + 1 := by
  refine ⟨Rat.floor_le q, ?_⟩
  simpa using Rat.lt_floor_add_one q

theorem roundTiesEven_eq_or (q : ℚ) :
    roundTiesEven q = q.floor ∨ roundTiesEven q = q.floor + 1 := by
  simp only [roundTiesEven]
  split
  · exact Or.inl rfl
  · split
    · exact Or.inr rfl
    · split
      · exact Or.inl rfl
      · exact Or.inr rfl

/-- Half a unit is the most that rounding to an integer misses by. -/
theorem abs_roundTiesEven_sub_le (q : ℚ) : |(roundTiesEven q : ℚ) - q| ≤ 1 / 2 := by
  obtain ⟨hlo, hhi⟩ := floor_frac q
  simp only [roundTiesEven]
  rw [abs_le]
  split_ifs <;> push_cast <;> constructor <;> linarith

theorem roundTiesEven_le {q : ℚ} {n : ℤ} (h : q ≤ n) : roundTiesEven q ≤ n := by
  have herr := abs_le.1 (abs_roundTiesEven_sub_le q)
  have : ((roundTiesEven q : ℤ) : ℚ) < ((n + 1 : ℤ) : ℚ) := by
    push_cast
    linarith
  have : roundTiesEven q < n + 1 := by exact_mod_cast this
  omega

theorem le_roundTiesEven {q : ℚ} {n : ℤ} (h : (n : ℚ) ≤ q) : n ≤ roundTiesEven q := by
  have herr := abs_le.1 (abs_roundTiesEven_sub_le q)
  have : ((n - 1 : ℤ) : ℚ) < ((roundTiesEven q : ℤ) : ℚ) := by
    push_cast
    linarith
  have : n - 1 < roundTiesEven q := by exact_mod_cast this
  omega

@[simp] theorem roundTiesEven_intCast (n : ℤ) : roundTiesEven (n : ℚ) = n :=
  le_antisymm (roundTiesEven_le le_rfl) (le_roundTiesEven le_rfl)

/-- Rounding to an integer is monotone: on one side of an integer the fractions decide, and
otherwise the integer itself stands between the results. -/
theorem roundTiesEven_mono {x y : ℚ} (h : x ≤ y) : roundTiesEven x ≤ roundTiesEven y := by
  have hfloor : x.floor ≤ y.floor := Rat.floor_monotone h
  rcases hfloor.eq_or_lt with heq | hlt
  · simp only [roundTiesEven, ← heq]
    split_ifs <;> first | omega | (exfalso; linarith)
  · have hx : roundTiesEven x ≤ x.floor + 1 := by
      rcases roundTiesEven_eq_or x with h | h <;> omega
    have hy : y.floor ≤ roundTiesEven y := by
      rcases roundTiesEven_eq_or y with h | h <;> omega
    omega

/-! ## Rounding a magnitude -/

theorem lastPlace_ge (q : ℚ) : -1074 ≤ lastPlace q := le_max_right _ _

/-- A larger magnitude is not rounded to a finer place. -/
theorem lastPlace_mono {x y : ℚ} (hx : 0 < x) (h : x ≤ y) : lastPlace x ≤ lastPlace y :=
  max_le_max (by have := floorLog2_mono hx h; omega) le_rfl

@[simp] theorem roundMagnitude_zero : roundMagnitude 0 = 0 := by
  simp [roundMagnitude, show roundTiesEven 0 = 0 from roundTiesEven_intCast 0]

/-- Rounding does not cross a multiple of the last place from below. -/
theorem roundMagnitude_le_of_multiple {q : ℚ} {n : ℤ} (h : q ≤ n * 2 ^ lastPlace q) :
    roundMagnitude q ≤ n * 2 ^ lastPlace q := by
  have hu := two_zpow_pos (lastPlace q)
  refine mul_le_mul_of_nonneg_right ?_ hu.le
  exact_mod_cast roundTiesEven_le ((div_le_iff₀ hu).2 h)

/-- Rounding does not cross a multiple of the last place from above. -/
theorem le_roundMagnitude_of_multiple {q : ℚ} {n : ℤ} (h : n * 2 ^ lastPlace q ≤ q) :
    n * 2 ^ lastPlace q ≤ roundMagnitude q := by
  have hu := two_zpow_pos (lastPlace q)
  refine mul_le_mul_of_nonneg_right ?_ hu.le
  exact_mod_cast le_roundTiesEven ((le_div_iff₀ hu).2 h)

theorem roundMagnitude_nonneg {q : ℚ} (hq : 0 ≤ q) : 0 ≤ roundMagnitude q := by
  have h := le_roundMagnitude_of_multiple (q := q) (n := 0) (by simpa using hq)
  simpa using h

theorem roundMagnitude_le_zpow {q : ℚ} {e : ℤ} (he : lastPlace q ≤ e) (h : q ≤ 2 ^ e) :
    roundMagnitude q ≤ 2 ^ e := by
  obtain ⟨n, hn⟩ := two_zpow_div he
  rw [div_eq_iff (two_zpow_pos _).ne'] at hn
  rw [hn] at h ⊢
  exact roundMagnitude_le_of_multiple h

theorem zpow_le_roundMagnitude {q : ℚ} {e : ℤ} (he : lastPlace q ≤ e) (h : (2 : ℚ) ^ e ≤ q) :
    (2 : ℚ) ^ e ≤ roundMagnitude q := by
  obtain ⟨n, hn⟩ := two_zpow_div he
  rw [div_eq_iff (two_zpow_pos _).ne'] at hn
  rw [hn] at h ⊢
  exact le_roundMagnitude_of_multiple h

/-- **Rounding is monotone.** -/
theorem roundMagnitude_mono {x y : ℚ} (hx : 0 ≤ x) (h : x ≤ y) :
    roundMagnitude x ≤ roundMagnitude y := by
  rcases hx.eq_or_lt with rfl | hx
  · rw [roundMagnitude_zero]
    exact roundMagnitude_nonneg h
  have hy : 0 < y := hx.trans_le h
  rcases (lastPlace_mono hx h).eq_or_lt with heq | hlt
  · simp only [roundMagnitude, ← heq]
    refine mul_le_mul_of_nonneg_right ?_ (two_zpow_pos _).le
    exact_mod_cast roundTiesEven_mono (div_le_div_of_nonneg_right h (two_zpow_pos _).le)
  · -- the power of two at the foot of the binade of `y` separates the results
    have hplace : lastPlace y = floorLog2 y - 52 := by
      have := lastPlace_ge x
      unfold lastPlace at hlt ⊢
      omega
    have hlog : floorLog2 x + 1 ≤ floorLog2 y := by
      unfold lastPlace at hlt
      omega
    calc roundMagnitude x ≤ 2 ^ floorLog2 y :=
          roundMagnitude_le_zpow (by omega) ((lt_pow_floorLog2 hx).le.trans (two_zpow_le hlog))
      _ ≤ roundMagnitude y := zpow_le_roundMagnitude (by omega) (pow_floorLog2_le hy)

/-- A whole number of binary places that fits the 53 digits is kept as it is. -/
theorem roundMagnitude_of_grid {n : ℕ} {e : ℤ} (hn : n < 2 ^ 53) (he : -1074 ≤ e) :
    roundMagnitude (n * 2 ^ e) = n * 2 ^ e := by
  rcases Nat.eq_zero_or_pos n with rfl | hpos
  · simp
  have hn0 : (0 : ℚ) < n := by exact_mod_cast hpos
  have hq : (0 : ℚ) < n * 2 ^ e := mul_pos hn0 (two_zpow_pos e)
  have hlt : (n : ℚ) * 2 ^ e < 2 ^ (53 + e) := by
    rw [two_zpow_add]
    refine mul_lt_mul_of_pos_right ?_ (two_zpow_pos e)
    exact_mod_cast hn
  have hlog := floorLog2_lt hq hlt
  have hplace : lastPlace (n * 2 ^ e) ≤ e := by
    unfold lastPlace
    omega
  -- the number is a multiple of its last place, so neither side of the rounding moves it
  obtain ⟨m, hm⟩ := two_zpow_div hplace
  rw [div_eq_iff (two_zpow_pos _).ne'] at hm
  have hmul : (n : ℚ) * 2 ^ e = ((n * m : ℤ) : ℚ) * 2 ^ lastPlace (n * 2 ^ e) := by
    push_cast
    rw [mul_assoc, ← hm]
  exact le_antisymm
    ((roundMagnitude_le_of_multiple hmul.le).trans hmul.ge)
    (hmul.le.trans (le_roundMagnitude_of_multiple hmul.ge))

/-- Small natural numbers are kept as they are. -/
theorem roundMagnitude_natCast {n : ℕ} (hn : n < 2 ^ 53) : roundMagnitude n = n := by
  simpa using roundMagnitude_of_grid hn (e := 0) (by norm_num)

/-! ## The loss of a rounding -/

/-- A rounding misses by at most half of the last place. -/
theorem abs_roundMagnitude_sub_le (q : ℚ) :
    |roundMagnitude q - q| ≤ 2 ^ lastPlace q / 2 := by
  have hu := two_zpow_pos (lastPlace q)
  have h := mul_le_mul_of_nonneg_right (abs_roundTiesEven_sub_le (q / 2 ^ lastPlace q)) hu.le
  have hq : roundMagnitude q - q
      = ((roundTiesEven (q / 2 ^ lastPlace q) : ℚ) - q / 2 ^ lastPlace q) * 2 ^ lastPlace q := by
    rw [sub_mul, div_mul_cancel₀ _ hu.ne']
    rfl
  rw [hq, abs_mul, abs_of_pos hu]
  linarith

/-- The relative loss that one rounding is charged with.  For normal magnitudes it is smaller, but
the least powers of ten are subnormal. -/
def loss : ℚ := 2 ^ (-50 : ℤ)

theorem loss_pos : 0 < loss := two_zpow_pos _

theorem loss_lt : loss < 1 / 1000000 := by norm_num [loss]

/-- Down to `2 ^ (-1025)` a rounding loses at most `loss` of the magnitude. -/
theorem abs_roundMagnitude_sub_le_mul {q : ℚ} (h : (2 : ℚ) ^ (-1025 : ℤ) ≤ q) :
    |roundMagnitude q - q| ≤ q * loss := by
  have hq : 0 < q := (two_zpow_pos _).trans_le h
  have hhalf : (2 : ℚ) ^ lastPlace q / 2 = 2 ^ (lastPlace q - 1) := by
    rw [two_zpow_sub_one]
  have hsplit : (2 : ℚ) ^ (lastPlace q - 1) = 2 ^ (lastPlace q + 49) * loss := by
    rw [loss, ← two_zpow_add]
    congr 1
    ring
  -- the last place is 52 below the exponent, or the least place of all
  have hplace : (2 : ℚ) ^ (lastPlace q + 49) ≤ q := by
    rcases le_total (floorLog2 q - 52) (-1074) with hle | hge
    · have hlast : lastPlace q = -1074 := max_eq_right hle
      rw [hlast]
      exact h
    · have hlast : lastPlace q = floorLog2 q - 52 := max_eq_left hge
      rw [hlast]
      exact (two_zpow_le (by omega)).trans (pow_floorLog2_le hq)
  calc |roundMagnitude q - q| ≤ 2 ^ lastPlace q / 2 := abs_roundMagnitude_sub_le q
    _ = 2 ^ (lastPlace q + 49) * loss := hhalf.trans hsplit
    _ ≤ q * loss := mul_le_mul_of_nonneg_right hplace loss_pos.le

theorem roundMagnitude_ge {q : ℚ} (h : (2 : ℚ) ^ (-1025 : ℤ) ≤ q) :
    q * (1 - loss) ≤ roundMagnitude q := by
  have := (abs_le.1 (abs_roundMagnitude_sub_le_mul h)).1
  linarith

theorem roundMagnitude_le {q : ℚ} (h : (2 : ℚ) ^ (-1025 : ℤ) ≤ q) :
    roundMagnitude q ≤ q * (1 + loss) := by
  have := (abs_le.1 (abs_roundMagnitude_sub_le_mul h)).2
  linarith

end Payables.Binary64
