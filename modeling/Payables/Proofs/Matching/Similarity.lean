import Payables.Proofs.Binary64.PowerOfTen
import Payables.Matching.Board

/-!
# The confidence of a similarity

The semantic strategy turns a similarity into a confidence by a product and a rounding.

* `similarity_cases` — similarities with one set of words are comparable: they are numbers of a
  share, unless that set has so many words that none of its similarities says anything.
* `semanticConfidence_mono` — a larger similarity gets no smaller confidence, so the candidate of
  the largest similarity reaches the floor if any candidate does
  (`floor_le_semanticConfidence_iff`).
-/

namespace Payables

open Binary64

/-! ## Similarities -/

namespace TokenSet

theorem common_le_left (a b : TokenSet) : common a b ≤ a.length := List.length_filter_le _ a

theorem left_le_either (a b : TokenSet) : a.length ≤ either a b := Nat.le_add_right _ _

end TokenSet

namespace Binary64

variable {m n : ℕ}

theorem ofNat_eq_ofMagnitude (n : ℕ) : Binary64.ofNat n = ofMagnitude false n := by
  have hneg : ¬(n : ℤ) < 0 := by omega
  rw [Binary64.ofNat, ofInt_eq_ofMagnitude, decide_eq_false hneg, Int.natAbs_natCast]

/-- What is no larger than a number that fits does so too. -/
theorem ofNat_of_le (h : m ≤ n) (hfit : roundMagnitude n < overflowBound) :
    Binary64.ofNat m = finite false (roundMagnitude m) := by
  have hmono : roundMagnitude m ≤ roundMagnitude n :=
    roundMagnitude_mono (Nat.cast_nonneg m) (by exact_mod_cast h)
  rw [ofNat_eq_ofMagnitude]
  rcases ofMagnitude_cases false m with ⟨-, -, heq⟩ | ⟨hbig, -⟩
  · exact heq
  · exact absurd (hmono.trans_lt hfit) (not_lt.2 hbig)

/-- What is no smaller than a number that overflows does so too. -/
theorem ofNat_of_ge (h : m ≤ n) (hbig : overflowBound ≤ roundMagnitude m) :
    Binary64.ofNat n = infinite false := by
  have hmono : roundMagnitude m ≤ roundMagnitude n :=
    roundMagnitude_mono (Nat.cast_nonneg m) (by exact_mod_cast h)
  rw [ofNat_eq_ofMagnitude]
  rcases ofMagnitude_cases false n with ⟨-, hlt, -⟩ | ⟨-, heq⟩
  · exact absurd (hbig.trans hmono) (not_le.2 hlt)
  · exact heq

theorem one_le_roundMagnitude (hn : 0 < n) : 1 ≤ roundMagnitude n :=
  onGrid_one.le_round (by exact_mod_cast hn)

end Binary64

namespace TokenSet

/-- Where the words of `a` can be counted, a similarity is the magnitude of a share. -/
theorem similarity_of_fit {a : TokenSet} (hfit : roundMagnitude a.length < overflowBound)
    (b : TokenSet) : ∃ m, 0 ≤ m ∧ a.similarity b = finite false m := by
  unfold similarity
  by_cases hzero : either a b = 0
  · rw [if_pos hzero]
    exact ⟨0, le_rfl, rfl⟩
  rw [if_neg hzero, ofNat_of_le (common_le_left a b) hfit, ofNat_eq_ofMagnitude]
  have hcommon0 : 0 ≤ roundMagnitude (common a b) := roundMagnitude_nonneg (Nat.cast_nonneg _)
  rcases ofMagnitude_cases false (either a b) with ⟨-, -, h⟩ | ⟨-, h⟩ <;> rw [h]
  · have hpos : 0 < roundMagnitude (either a b) :=
      one_pos.trans_le (one_le_roundMagnitude (Nat.pos_of_ne_zero hzero))
    have hshare : roundMagnitude (common a b) / roundMagnitude (either a b) ≤ 1 := by
      rw [div_le_one hpos]
      refine roundMagnitude_mono (Nat.cast_nonneg _) ?_
      exact_mod_cast (common_le_left a b).trans (left_le_either a b)
    have hshare0 := div_nonneg hcommon0 hpos.le
    refine ⟨_, roundMagnitude_nonneg hshare0, ?_⟩
    simp only [div, if_neg hpos.ne', bne_self_eq_false]
    exact ofMagnitude_of_le hshare0 onGrid_one hshare one_lt_overflowBound
  · exact ⟨0, le_rfl, rfl⟩

/-- Where the words of `a` are too many to be counted, no similarity says anything. -/
theorem similarity_of_overflow {a : TokenSet} (hbig : overflowBound ≤ roundMagnitude a.length)
    (b : TokenSet) : a.similarity b = nan ∨ a.similarity b = finite false 0 := by
  unfold similarity
  by_cases hzero : either a b = 0
  · rw [if_pos hzero]
    exact Or.inr rfl
  rw [if_neg hzero, ofNat_of_ge (left_le_either a b) hbig, ofNat_eq_ofMagnitude]
  rcases ofMagnitude_cases false (common a b) with ⟨-, -, h⟩ | ⟨-, h⟩ <;> rw [h]
  · exact Or.inr rfl
  · exact Or.inl rfl

/-- Similarities to one set of words are all magnitudes, or all say nothing. -/
theorem similarity_cases (a : TokenSet) :
    (∀ b, ∃ m, 0 ≤ m ∧ a.similarity b = finite false m) ∨
      ∀ b, a.similarity b = nan ∨ a.similarity b = finite false 0 := by
  rcases lt_or_ge (roundMagnitude a.length) overflowBound with hfit | hbig
  · exact Or.inl (similarity_of_fit hfit)
  · exact Or.inr (similarity_of_overflow hbig)

end TokenSet

/-! ## Confidences -/

namespace Board

/-- Three quarters of a hundred, as a number. -/
theorem semanticWeight_eq : Binary64.ofNat Strategy.semantic.weight.toNat = finite false 75 :=
  ofNat_eq_finite (n := 75) (by norm_num)

/-- The confidence of a magnitude: its share of the weight, rounded and cut off at the weight. -/
theorem toNat_semanticConfidence_finite (m : ℚ) :
    (semanticConfidence (finite false m)).toNat =
      min 75 (roundMagnitude (75 * m) + 1 / 2).floor.toNat := by
  simp only [semanticConfidence, semanticWeight_eq, Binary64.mul]
  rcases ofMagnitude_cases (false != false) (75 * m) with ⟨-, -, h⟩ | ⟨hbig, h⟩
  · have hclamp := toNat_clamp (n := 75) (by norm_num) (roundMagnitude (75 * m) + 1 / 2).floor
    rw [h, min_comm]
    exact hclamp
  · -- an infinite product is cut off at the weight, and so is its magnitude
    have h75 : (finite false 75).toUInt8.toNat = 75 := toNat_toUInt8_finite 75
    have hk := floor_ge_of_overflow (n := 75) (by norm_num) hbig
    rw [h]
    show (finite false 75).toUInt8.toNat = _
    omega

theorem semanticConfidence_nan : semanticConfidence nan = 0 := by
  simp only [semanticConfidence, semanticWeight_eq]
  rfl

theorem semanticConfidence_zero : semanticConfidence (finite false 0) = 0 := by
  have hfloor : ((0 : ℚ) + 1 / 2).floor = 0 := by decide +kernel
  rw [← UInt8.toNat_inj, toNat_semanticConfidence_finite 0, mul_zero, roundMagnitude_zero,
    hfloor]
  rfl

/-- Where no word is shared there is no confidence. -/
theorem semanticConfidence_of_le_zero {a b : TokenSet}
    (h : (a.similarity b).le Binary64.zero = true) : semanticConfidence (a.similarity b) = 0 := by
  rcases a.similarity_cases with hfin | hnone
  · obtain ⟨m, hm, hb⟩ := hfin b
    rw [hb] at h ⊢
    have hle : m ≤ 0 := by simpa [le_finite, Binary64.zero, Binary64.value] using h
    rw [le_antisymm hle hm]
    exact semanticConfidence_zero
  · rcases hnone b with hb | hb <;> rw [hb]
    · exact semanticConfidence_nan
    · exact semanticConfidence_zero

/-- A larger similarity to the same words gets no smaller confidence. -/
theorem semanticConfidence_mono {a b b' : TokenSet}
    (h : (a.similarity b').lt (a.similarity b) = false) :
    semanticConfidence (a.similarity b) ≤ semanticConfidence (a.similarity b') := by
  rcases a.similarity_cases with hfin | hnone
  · obtain ⟨m, hm, hb⟩ := hfin b
    obtain ⟨m', hm', hb'⟩ := hfin b'
    rw [hb, hb'] at h ⊢
    have hle : m ≤ m' := by simpa [lt, Binary64.value] using h
    have hpoints := toNat_floor_round_mono (x := 75 * m) (y := 75 * m') (by linarith)
    rw [UInt8.le_iff_toNat_le, toNat_semanticConfidence_finite, toNat_semanticConfidence_finite]
    omega
  · have hzero : semanticConfidence (a.similarity b) = 0 := by
      rcases hnone b with h | h <;> rw [h]
      · exact semanticConfidence_nan
      · exact semanticConfidence_zero
    rw [hzero, UInt8.le_iff_toNat_le]
    exact Nat.zero_le _

theorem semanticConfidence_le_weight (a b : TokenSet) :
    semanticConfidence (a.similarity b) ≤ Strategy.semantic.weight := by
  have hnan : semanticConfidence nan ≤ Strategy.semantic.weight := by
    rw [semanticConfidence_nan]
    decide
  have hfin : ∀ m, semanticConfidence (finite false m) ≤ Strategy.semantic.weight := by
    intro m
    rw [UInt8.le_iff_toNat_le, toNat_semanticConfidence_finite]
    exact Nat.min_le_left _ _
  rcases a.similarity_cases with h | h
  · obtain ⟨m, -, heq⟩ := h b
    rw [heq]
    exact hfin m
  · rcases h b with heq | heq <;> rw [heq]
    · exact hnan
    · exact hfin 0

/-- The confidence reaches the floor where the similarity times its weight rounds to sixty or
more. -/
theorem floor_le_semanticConfidence_iff (a b : TokenSet) :
    Strategy.semantic.floor ≤ semanticConfidence (a.similarity b) ↔
      (Binary64.ofNat 60).le ((Binary64.ofNat 75).mul (a.similarity b)).round = true := by
  have h60 : Binary64.ofNat 60 = finite false 60 := ofNat_eq_finite (n := 60) (by norm_num)
  have h75 : Binary64.ofNat 75 = finite false 75 := ofNat_eq_finite (n := 75) (by norm_num)
  have hfloor : Strategy.semantic.floor.toNat = 60 := rfl
  have hfin : ∀ m, (Strategy.semantic.floor ≤ semanticConfidence (finite false m) ↔
      (finite false 60).le ((finite false 75).mul (finite false m)).round = true) := by
    intro m
    rw [UInt8.le_iff_toNat_le, toNat_semanticConfidence_finite, hfloor]
    simp only [Binary64.mul, bne_self_eq_false]
    rcases ofMagnitude_cases false (75 * m) with ⟨-, -, h⟩ | ⟨hbig, h⟩
    · rw [h]
      simp only [Binary64.round, le_finite, Binary64.value, Bool.false_eq_true, if_false]
      have hcast : (60 : ℚ) ≤ ((roundMagnitude (75 * m) + 1 / 2).floor : ℚ) ↔
          60 ≤ (roundMagnitude (75 * m) + 1 / 2).floor := by exact_mod_cast Iff.rfl
      rw [hcast]
      omega
    · have hk := floor_ge_of_overflow (n := 60) (by norm_num) hbig
      rw [h]
      simp only [Binary64.round, le, lt, Bool.not_false, Bool.true_or, iff_true]
      omega
  rw [h60, h75]
  rcases a.similarity_cases with h | h
  · obtain ⟨m, -, heq⟩ := h b
    rw [heq]
    exact hfin m
  · rcases h b with heq | heq <;> rw [heq]
    · rw [semanticConfidence_nan]
      decide
    · exact hfin 0

end Board
end Payables
