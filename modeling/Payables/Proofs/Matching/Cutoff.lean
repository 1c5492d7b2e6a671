import Payables.Proofs.Matching.Words

/-!
# Where the semantic strategy starts

The semantic strategy gives a similarity its share of 75 points, rounded, and claims a line from 60
points on.  So it starts at the similarity of 59.5 points, 119 words out of 150, which is a little
less than the four fifths that 60 points are.

* `sixty_le_iff` — of the numbers of the grid, the first one to get 60 points is the one nearest to
  119/150.  The number before it still falls short of 59.5 points once the product is rounded.
* `semantic_reaches_floor_iff` — so this number is the cutoff of computed similarities.  Below
  `2 ^ 46` words no two different shares are so close together that rounding could confuse them,
  and the cutoff is 119 words out of 150 exactly.
* `kit_below_four_fifths` — four words out of five is not the cutoff.
-/

namespace Payables

open Binary64

namespace Binary64

/-- Two neighbours of the grid have no number between them. -/
theorem roundMagnitude_le_of_lt_next {q : ℚ} {n : ℤ}
    (h : roundMagnitude q < (n + 1) * 2 ^ lastPlace q) :
    roundMagnitude q ≤ n * 2 ^ lastPlace q := by
  have hunit := two_zpow_pos (lastPlace q)
  have hlt : ((roundTiesEven (q / 2 ^ lastPlace q) : ℤ) : ℚ) < n + 1 :=
    lt_of_mul_lt_mul_right h hunit.le
  have hle : roundTiesEven (q / 2 ^ lastPlace q) ≤ n := by
    have : roundTiesEven (q / 2 ^ lastPlace q) < n + 1 := by exact_mod_cast hlt
    omega
  refine mul_le_mul_of_nonneg_right ?_ hunit.le
  exact_mod_cast hle

/-- From a half up to one, the last place is the 53rd. -/
theorem lastPlace_of_mem {q : ℚ} (hlow : 1 / 2 ≤ q) (hhigh : q < 1) : lastPlace q = -53 := by
  have hpos : 0 < q := by linarith
  have hbelow : floorLog2 q < 0 := floorLog2_lt hpos (by simpa using hhigh)
  have habove : -1 < floorLog2 q + 1 := by
    by_contra hle
    have hpow : (2 : ℚ) ^ (floorLog2 q + 1) ≤ 2 ^ (-1 : ℤ) := two_zpow_le (by omega)
    have := lt_pow_floorLog2 hpos
    norm_num at hpow
    linarith
  unfold lastPlace
  omega

end Binary64

namespace Board

/-! ## The first number that is enough -/

/-- The number nearest to 119/150. -/
theorem roundMagnitude_cutoff : roundMagnitude (119 / 150) = 7145711408761187 / 2 ^ 53 := by
  decide +kernel

/-- The middle between this number and the one before it goes to the one before, which is even. -/
theorem roundMagnitude_middle :
    roundMagnitude (14291422817522373 / 2 ^ 54) = 7145711408761186 / 2 ^ 53 := by
  decide +kernel

/-- It gets 59.5 points. -/
theorem points_cutoff : roundMagnitude (75 * (7145711408761187 / 2 ^ 53)) = 119 / 2 := by
  decide +kernel

/-- The number before it gets the last number of points below 59.5. -/
theorem points_before_cutoff :
    roundMagnitude (75 * (7145711408761186 / 2 ^ 53)) = 119 / 2 - 1 / 2 ^ 47 := by
  decide +kernel

/-- **The cutoff of rounded shares.**  A rounded share gets sixty points, halves rounded up, just
from the number nearest to 119/150 on. -/
theorem sixty_le_iff {q : ℚ} (hq : 0 ≤ q) :
    60 ≤ (roundMagnitude (75 * roundMagnitude q) + 1 / 2).floor ↔
      roundMagnitude (119 / 150) ≤ roundMagnitude q := by
  have hm := roundMagnitude_nonneg hq
  rw [Rat.le_floor_iff, roundMagnitude_cutoff]
  push_cast
  constructor
  · intro hpoints
    by_contra hbelow
    -- what is smaller is no larger than the number before
    have hbefore : roundMagnitude q ≤ 7145711408761186 / 2 ^ 53 := by
      rcases lt_or_ge q (1 / 2) with hsmall | hlarge
      · have hhalf : OnGrid (1 / 2) :=
          onGrid_of_mul_two_pow (n := 1) (k := 1) (by norm_num) (by norm_num) (by norm_num)
        exact (hhalf.round_le hq hsmall.le).trans (by norm_num)
      · have hone : q < 1 := onGrid_one.lt_of_round_lt ((not_le.1 hbelow).trans (by norm_num))
        have hplace := lastPlace_of_mem hlarge hone
        have hnext := roundMagnitude_le_of_lt_next (q := q) (n := 7145711408761186) (by
          rw [hplace]
          norm_num at hbelow ⊢
          linarith)
        rw [hplace] at hnext
        norm_num at hnext ⊢
        linarith
    have hproduct : roundMagnitude (75 * roundMagnitude q) ≤ 119 / 2 - 1 / 2 ^ 47 := by
      rw [← points_before_cutoff]
      exact roundMagnitude_mono (by linarith) (by linarith)
    norm_num at hproduct
    linarith
  · intro hcutoff
    have hproduct : 119 / 2 ≤ roundMagnitude (75 * roundMagnitude q) := by
      rw [← points_cutoff]
      exact roundMagnitude_mono (by norm_num) (by linarith)
    linarith

/-! ## Similarities -/

/-- A similarity that is a number is a share that was rounded. -/
theorem similarity_rounded {a b : TokenSet} {m : ℚ} (h : a.similarity b = finite false m) :
    ∃ q, 0 ≤ q ∧ m = roundMagnitude q := by
  unfold TokenSet.similarity at h
  by_cases hzero : a.either b = 0
  · rw [if_pos hzero] at h
    cases h
    exact ⟨0, le_rfl, roundMagnitude_zero.symm⟩
  rw [if_neg hzero, ofNat_eq_ofMagnitude, ofNat_eq_ofMagnitude] at h
  rcases ofMagnitude_cases false (a.common b) with ⟨-, -, hi⟩ | ⟨-, hi⟩ <;>
    rcases ofMagnitude_cases false (a.either b) with ⟨-, -, hu⟩ | ⟨-, hu⟩ <;> rw [hi, hu] at h
  · have hpos : 0 < roundMagnitude (a.either b) :=
      one_pos.trans_le (one_le_roundMagnitude (Nat.pos_of_ne_zero hzero))
    simp only [Binary64.div, if_neg hpos.ne'] at h
    obtain ⟨-, hm, -⟩ := ofMagnitude_eq_finite h
    exact ⟨_, div_nonneg (roundMagnitude_nonneg (Nat.cast_nonneg _)) hpos.le, hm⟩
  · -- too many words in all leave nothing of a share
    cases h
    exact ⟨0, le_rfl, roundMagnitude_zero.symm⟩
  · cases h
  · cases h

theorem ofRat_cutoff : Binary64.ofRat (119 / 150) = finite false (roundMagnitude (119 / 150)) := by
  rw [ofRat_of_nonneg (by norm_num)]
  exact ofMagnitude_of_le (by norm_num) onGrid_one (by norm_num) one_lt_overflowBound

/-- A rounded share reaches the floor just from the number nearest to 119/150 on. -/
theorem floor_le_semanticConfidence_rounded {q : ℚ} (hq : 0 ≤ q) :
    Strategy.semantic.floor ≤ semanticConfidence (finite false (roundMagnitude q)) ↔
      (Binary64.ofRat (119 / 150)).le (finite false (roundMagnitude q)) = true := by
  have hfloor : Strategy.semantic.floor.toNat = 60 := rfl
  rw [ofRat_cutoff, le_finite, UInt8.le_iff_toNat_le, toNat_semanticConfidence_finite, hfloor]
  simp only [Binary64.value, Bool.false_eq_true, if_false]
  rw [← sixty_le_iff hq]
  omega

/-- So does every similarity, as far as it is a number. -/
theorem floor_le_semanticConfidence_iff_cutoff (a b : TokenSet) :
    Strategy.semantic.floor ≤ semanticConfidence (a.similarity b) ↔
      (Binary64.ofRat (119 / 150)).le (a.similarity b) = true := by
  rcases a.similarity_cases with h | h
  · obtain ⟨m, -, heq⟩ := h b
    obtain ⟨q, hq, rfl⟩ := similarity_rounded heq
    rw [heq]
    exact floor_le_semanticConfidence_rounded hq
  · rcases h b with heq | heq <;> rw [heq]
    · rw [semanticConfidence_nan, le_nan]
      decide
    · rw [← roundMagnitude_zero]
      exact floor_le_semanticConfidence_rounded le_rfl

/-- Below `2 ^ 46` words, shares that are not equal stay apart when they are rounded. -/
theorem cutoff_le_similarity_iff {a b : TokenSet} (hsize : a.either b < 2 ^ 46) :
    (Binary64.ofRat (119 / 150)).le (a.similarity b) = true ↔
      a.either b ≠ 0 ∧ 119 * a.either b ≤ 150 * a.common b := by
  have hle := TokenSet.common_le_either a b
  have hshare1 : (a.common b : ℚ) / a.either b ≤ 1 :=
    div_le_one_of_le₀ (by exact_mod_cast hle) (Nat.cast_nonneg _)
  have hshare0 : 0 ≤ (a.common b : ℚ) / a.either b :=
    div_nonneg (Nat.cast_nonneg _) (Nat.cast_nonneg _)
  rw [TokenSet.similarity_eq_ofMagnitude (by omega), ofRat_cutoff,
    ofMagnitude_of_le hshare0 onGrid_one hshare1 one_lt_overflowBound, le_finite]
  simp only [Binary64.value, Bool.false_eq_true, if_false]
  constructor
  · intro hround
    have hne : a.either b ≠ 0 := by
      intro hzero
      rw [hzero, Nat.cast_zero, div_zero, roundMagnitude_zero, roundMagnitude_cutoff] at hround
      norm_num at hround
    have hpos : (0 : ℚ) < a.either b := by exact_mod_cast Nat.pos_of_ne_zero hne
    refine ⟨hne, ?_⟩
    by_contra hlt
    -- the share keeps its distance, so it is no larger than the middle between the two numbers
    have hcount : (150 : ℚ) * a.common b + 1 ≤ 119 * a.either b := by
      exact_mod_cast Nat.lt_of_not_le hlt
    have hsize' : (a.either b : ℚ) ≤ 2 ^ 46 := by exact_mod_cast hsize.le
    have hmiddle : (a.common b : ℚ) / a.either b ≤ 14291422817522373 / 2 ^ 54 := by
      rw [div_le_iff₀ hpos]
      linarith
    have hbefore := roundMagnitude_mono hshare0 hmiddle
    rw [roundMagnitude_middle] at hbefore
    rw [roundMagnitude_cutoff] at hround
    have := hround.trans hbefore
    norm_num at this
  · rintro ⟨hne, hcount⟩
    have hpos : (0 : ℚ) < a.either b := by exact_mod_cast Nat.pos_of_ne_zero hne
    have hshare : 119 / 150 ≤ (a.common b : ℚ) / a.either b := by
      have : (119 : ℚ) * a.either b ≤ 150 * a.common b := by exact_mod_cast hcount
      rw [le_div_iff₀ hpos]
      linarith
    exact roundMagnitude_mono (by norm_num) hshare

theorem floor_le_semanticConfidence_iff_words {a b : TokenSet} (hsize : a.either b < 2 ^ 46) :
    Strategy.semantic.floor ≤ semanticConfidence (a.similarity b) ↔
      a.either b ≠ 0 ∧ 119 * a.either b ≤ 150 * a.common b :=
  (floor_le_semanticConfidence_iff_cutoff a b).trans (cutoff_le_similarity_iff hsize)

/-- Four words out of five are enough, rounded or not. -/
theorem cutoff_le_similarity_of_le {a b : TokenSet} (hsize : a.either b < 2 ^ 64)
    (hpos : a.either b ≠ 0) (h : 4 * a.either b ≤ 5 * a.common b) :
    (Binary64.ofRat (119 / 150)).le (a.similarity b) = true := by
  have hcommon : 0 < a.common b := by omega
  have hpos' : (0 : ℚ) < a.either b := by exact_mod_cast Nat.pos_of_ne_zero hpos
  obtain ⟨m, hm, hclose⟩ := TokenSet.similarity_close hcommon hsize
  have hshare : 4 / 5 ≤ (a.common b : ℚ) / a.either b := by
    rw [le_div_iff₀ hpos']
    have : (4 : ℚ) * a.either b ≤ 5 * a.common b := by exact_mod_cast h
    linarith
  have habove := (abs_le.1 (hclose.abs_sub_le (by norm_num))).1
  rw [hm, ofRat_cutoff, le_finite, roundMagnitude_cutoff]
  simp only [Binary64.value, Bool.false_eq_true, if_false]
  norm_num at habove ⊢
  linarith

/-! ## Descriptions -/

/-- The set of the words of a description. -/
def words (s : String) : Finset String := (TokenSet.ofText s).toFinset

/-- The similarity of two descriptions. -/
def likeness (s t : String) : Binary64 := (TokenSet.ofText s).similarity (TokenSet.ofText t)

theorem card_words_union (s t : String) :
    (words s ∪ words t).card = TokenSet.either (TokenSet.ofText s) (TokenSet.ofText t) :=
  (TokenSet.either_eq_card (TokenSet.ascending_ofText s) (TokenSet.ascending_ofText t)).symm

theorem card_words_inter (s t : String) :
    (words s ∩ words t).card = TokenSet.common (TokenSet.ofText s) (TokenSet.ofText t) :=
  (TokenSet.common_eq_card (TokenSet.ascending_ofText s)).symm

/-- **The semantic strategy starts at 119 words out of 150.**  The confidence of two descriptions
reaches its floor just where their similarity, as it is computed, reaches the number nearest to
119/150.  For fewer than `2 ^ 46` words this is where at least 119/150 of the words of either
description stand in both; and four words out of five are enough as long as the words fit a machine
word. -/
theorem semantic_reaches_floor_iff (s t : String) :
    (Strategy.semantic.floor ≤ semanticConfidence (likeness s t) ↔
        (Binary64.ofRat (119 / 150)).le (likeness s t) = true) ∧
      ((words s ∪ words t).card < 2 ^ 46 →
        (Strategy.semantic.floor ≤ semanticConfidence (likeness s t) ↔
          (words s ∪ words t).Nonempty ∧
            119 * (words s ∪ words t).card ≤ 150 * (words s ∩ words t).card)) ∧
      ((words s ∪ words t).card < 2 ^ 64 → (words s ∪ words t).Nonempty →
        4 * (words s ∪ words t).card ≤ 5 * (words s ∩ words t).card →
        Strategy.semantic.floor ≤ semanticConfidence (likeness s t)) := by
  have hcutoff := floor_le_semanticConfidence_iff_cutoff (TokenSet.ofText s) (TokenSet.ofText t)
  rw [← Finset.card_ne_zero, card_words_union, card_words_inter]
  refine ⟨hcutoff, ?_, ?_⟩
  · intro hsize
    exact floor_le_semanticConfidence_iff_words hsize
  · intro hsize hne hcount
    exact hcutoff.2 (cutoff_le_similarity_of_le hsize hne hcount)

/-- A kit of 34 numbered parts. -/
def kit : String :=
  "10 11 12 13 14 15 16 17 18 19 20 21 22 23 24 25 26 27 28 29 30 31 32 33 34 35 36" ++
    " 37 38 39 40 41 42 43"

/-- The first 27 parts of the kit. -/
def kitDelivered : String :=
  "10 11 12 13 14 15 16 17 18 19 20 21 22 23 24 25 26 27 28 29 30 31 32 33 34 35 36"

theorem kit_words :
    (words kit ∪ words kitDelivered).card = 34 ∧ (words kit ∩ words kitDelivered).card = 27 := by
  rw [card_words_union, card_words_inter]
  decide +kernel

/-- The 27 parts delivered out of 34 are enough for the strategy. -/
theorem kit_semantic :
    34 < 2 ^ 46 ∧ 119 * 34 ≤ 150 * 27 ∧
      Strategy.semantic.floor ≤ semanticConfidence (likeness kit kitDelivered) := by
  obtain ⟨htotal, hshared⟩ := kit_words
  obtain ⟨-, hiff, -⟩ := semantic_reaches_floor_iff kit kitDelivered
  rw [htotal, hshared] at hiff
  refine ⟨by norm_num, by norm_num, (hiff (by norm_num)).2 ⟨?_, by norm_num⟩⟩
  rw [← Finset.card_ne_zero, htotal]
  norm_num

/-- **Four out of five is not the cutoff.**  The 27 parts are fewer than four fifths of 34, and
still they get sixty points. -/
theorem kit_below_four_fifths :
    ¬(Strategy.semantic.floor ≤ semanticConfidence (likeness kit kitDelivered) ↔
      (words kit ∪ words kitDelivered).Nonempty ∧
        4 * (words kit ∪ words kitDelivered).card ≤ 5 * (words kit ∩ words kitDelivered).card) := by
  intro hiff
  obtain ⟨htotal, hshared⟩ := kit_words
  have hreached : Strategy.semantic.floor ≤ semanticConfidence (likeness kit kitDelivered) := by
    rw [card_words_union] at htotal
    rw [card_words_inter] at hshared
    exact (floor_le_semanticConfidence_iff_words (by omega)).2 (by omega)
  have hcount := (hiff.1 hreached).2
  rw [htotal, hshared] at hcount
  omega

end Board
end Payables
