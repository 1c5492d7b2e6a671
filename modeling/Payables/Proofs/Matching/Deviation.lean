import Payables.Proofs.Matching.Score

/-!
# A larger deviation never helps

The deviation of a match is looked at twice: ten points for each percent are taken from its
confidence, and the tolerance of its strategy decides whether it counts as clean.  Both look at the
magnitude only, and both keep the order of magnitudes.

* `penalty_mono`, `confidence_anti` — what is no larger costs no more.
* `penalty_eq_maxPenalty` — from four percent on the penalty is the full one.
* `monotone_in_deviation` — so neither the confidence nor the status gets better with the deviation,
  and a strategy that tolerates four percent or more takes the full penalty from every match that is
  not clean.
-/

namespace Payables

open Binary64

/-- The strategies that tolerate what costs the full penalty. -/
theorem Strategy.four_le_tolerance_iff {s : Strategy} :
    (Binary64.ofNat 4).le s.tolerance = true ↔
      s = .keyBased ∨ s = .vendorMaterial ∨ s = .grXref := by
  cases s <;> decide +kernel

namespace Variance

variable {a b x : Binary64}

/-! ## Penalties -/

theorem penalty_infinite (s : Bool) : penalty (infinite s) = maxPenalty := by
  have hten : (10 : ℚ) ≠ 0 := by norm_num
  simp only [penalty, Binary64.abs, Binary64.mul, ten_eq_finite, forty_eq_finite, if_neg hten]
  rfl

theorem penalty_le_maxPenalty (x : Binary64) : penalty x ≤ maxPenalty := by
  cases x with
  | nan => decide +kernel
  | infinite s =>
    rw [penalty_infinite]
    exact UInt8.le_refl _
  | finite s m =>
    rw [UInt8.le_iff_toNat_le, toNat_penalty_finite]
    exact Nat.min_le_left _ _

/-- **A larger deviation costs no less.** -/
theorem penalty_mono (h : a.abs.le b.abs = true) : penalty a ≤ penalty b := by
  cases b with
  | nan =>
    rw [Binary64.abs, le_nan] at h
    cases h
  | infinite t =>
    rw [penalty_infinite]
    exact penalty_le_maxPenalty a
  | finite t n =>
    obtain ⟨s, m, rfl, hm⟩ := magnitude_le_of_abs_le h
    have hpoints := toNat_floor_round_mono (x := m * 10) (y := n * 10) (by linarith)
    rw [UInt8.le_iff_toNat_le, toNat_penalty_finite, toNat_penalty_finite]
    omega

/-- Four percent or more cost forty points. -/
theorem penalty_eq_maxPenalty (h : (Binary64.ofNat 4).le x.abs = true) :
    penalty x = maxPenalty := by
  have hfour : penalty (Binary64.ofNat 4) = maxPenalty := by decide +kernel
  have habs : (Binary64.ofNat 4).abs = Binary64.ofNat 4 := by decide +kernel
  refine UInt8.le_antisymm (penalty_le_maxPenalty x) ?_
  rw [← hfour]
  exact penalty_mono (by rwa [habs])

/-! ## Confidences -/

/-- **A larger deviation leaves no more of a confidence.** -/
theorem confidence_anti (raw : UInt8) (h : a.abs.le b.abs = true) :
    confidence raw b ≤ confidence raw a := by
  have hpenalty := UInt8.le_iff_toNat_le.1 (penalty_mono h)
  rw [UInt8.le_iff_toNat_le, confidence, confidence, toNat_less, toNat_less]
  omega

/-- No deviation takes more than forty points. -/
theorem le_toNat_confidence (raw : UInt8) (x : Binary64) :
    raw.toNat - 40 ≤ (confidence raw x).toNat := by
  have hmax : maxPenalty.toNat = 40 := rfl
  have hpenalty := UInt8.le_iff_toNat_le.1 (penalty_le_maxPenalty x)
  rw [confidence, toNat_less]
  omega

/-! ## Statuses -/

/-- What is no larger than a clean deviation is clean. -/
theorem classify_matched_anti {s : Strategy} {kind : VarianceKind} (h : a.abs.le b.abs = true)
    (hb : (Variance.mk kind b).classify s = .matched) :
    (Variance.mk kind a).classify s = .matched := by
  rw [classify_eq_matched_iff] at hb ⊢
  exact Binary64.le_trans h hb

/-- A number beyond a tolerance of four percent or more costs forty points. -/
theorem penalty_of_classify_ne_matched {s : Strategy} {kind : VarianceKind}
    (hs : (Binary64.ofNat 4).le s.tolerance = true) (hnum : x.isNaN = false)
    (h : (Variance.mk kind x).classify s ≠ .matched) : penalty x = maxPenalty := by
  have hbeyond : s.tolerance.lt x.abs = true := by
    by_contra hlt
    have htolerance : s.tolerance.isNaN = false := by cases s <;> exact ofInt_isNaN _
    have hclean := le_of_lt_eq_false (by rwa [abs_isNaN]) htolerance (Bool.eq_false_iff.2 hlt)
    exact h (classify_eq_matched_iff.2 hclean)
  exact penalty_eq_maxPenalty (Binary64.le_trans hs (Binary64.le_of_lt hbeyond))

/-! ## The whole law -/

/-- **Confidence and status are monotone in the deviation.**  Take two deviations of which `a` is no
larger in magnitude than `b`.  `a` leaves at least as much of a confidence as `b`, takes at most
forty points and adds none; where `b` is clean under a strategy, so is `a`; and where `a` is not
clean under a strategy that tolerates five percent, it takes the full forty points.  Finite
deviations are always comparable; NaN is comparable with nothing. -/
theorem monotone_in_deviation (raw : UInt8) (s : Strategy) (kind : VarianceKind)
    (h : a.abs.le b.abs = true) :
    confidence raw b ≤ confidence raw a ∧
      raw.toNat - 40 ≤ (confidence raw a).toNat ∧ confidence raw a ≤ raw ∧
      ((Variance.mk kind b).classify s = .matched → (Variance.mk kind a).classify s = .matched) ∧
      (s = .keyBased ∨ s = .vendorMaterial ∨ s = .grXref →
        (Variance.mk kind a).classify s ≠ .matched →
        penalty a = 40 ∧ (confidence raw a).toNat = raw.toNat - 40) := by
  refine ⟨confidence_anti raw h, le_toNat_confidence raw a, less_le _ _,
    classify_matched_anti h, ?_⟩
  intro hs hstatus
  have hnum : a.isNaN = false := by
    rw [← abs_isNaN]
    exact (isNaN_of_le h).1
  have hfull : penalty a = maxPenalty :=
    penalty_of_classify_ne_matched (Strategy.four_le_tolerance_iff.2 hs) hnum hstatus
  refine ⟨hfull, ?_⟩
  rw [confidence, hfull, toNat_less]
  rfl

/-- A price 4.9 percent too high is clean for a receipt, and so is a smaller one.  A quantity six
percent too small is not, and takes the full penalty, which uses up a confidence of thirty. -/
theorem receipt_deviation :
    (ofInt (-3)).abs.le (ofRat (49 / 10)).abs = true ∧
      confidence 30 (ofRat (49 / 10)) ≤ confidence 30 (ofInt (-3)) ∧
      (Variance.mk .price (ofRat (49 / 10))).classify .grXref = .matched ∧
      (Variance.mk .price (ofInt (-3))).classify .grXref = .matched ∧
      (ofInt (-6)).abs.le (ofInt 7).abs = true ∧
      (Variance.mk .quantity (ofInt (-6))).classify .grXref = .shortfall ∧
      penalty (ofInt (-6)) = 40 ∧ (confidence 30 (ofInt (-6))).toNat = 0 := by
  have hprice : (ofInt (-3)).abs.le (ofRat (49 / 10)).abs = true := by decide +kernel
  have hclean : (Variance.mk .price (ofRat (49 / 10))).classify .grXref = .matched := by
    decide +kernel
  have hquantity : (ofInt (-6)).abs.le (ofInt 7).abs = true := by decide +kernel
  have hshort : (Variance.mk .quantity (ofInt (-6))).classify .grXref = .shortfall := by
    decide +kernel
  obtain ⟨hconf, -, -, hmatched, -⟩ := monotone_in_deviation 30 .grXref .price hprice
  obtain ⟨-, -, -, -, hfull⟩ := monotone_in_deviation 30 .grXref .quantity hquantity
  obtain ⟨hpenalty, hnothing⟩ := hfull (Or.inr (Or.inr rfl)) (by rw [hshort]; nofun)
  exact ⟨hprice, hconf, hclean, hmatched hclean, hquantity, hshort, hpenalty, hnothing⟩

/-- Without a number there is nothing to compare: NaN is not clean and costs nothing. -/
example : (Variance.mk .price nan).classify .keyBased = .exception ∧ penalty nan = 0 := by
  decide +kernel

end Variance
end Payables
