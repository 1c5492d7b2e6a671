import Payables.Proofs.Matching.Score

/-!
# The mean confidence of an invoice

The confidence of an invoice is the mean of what its resolved lines have, computed in whole numbers:
twice the sum and one count more, divided by twice the count.

* `mean_within` — the one fact about this quotient that the rest needs: it is within half a point of
  the mean.  What is in the range of a byte stays there, so nothing is cut off.
* `le_mean`, `mean_le`, `mean_mono` — it lies between the least and the greatest confidence and does
  not fall when the sum grows.
* `ofResults_roundedMean` — the score of an invoice rounds the exact mean, halves up, and depends on
  nothing but the resolved results.
-/

namespace Payables.InvoiceScore

/-! ## Means of confidences -/

variable {cs : List UInt8}

theorem confidenceSum_eq_sum (cs : List UInt8) : confidenceSum cs = (cs.map UInt8.toNat).sum := by
  induction cs using List.reverseRecOn with
  | nil => rfl
  | append_singleton cs c ih =>
    rw [confidenceSum, List.foldl_append, ← confidenceSum, ih]
    simp

theorem confidenceSum_le {hi : UInt8} (h : ∀ c ∈ cs, c ≤ hi) :
    confidenceSum cs ≤ cs.length * hi.toNat := by
  have hmap : ∀ n ∈ cs.map UInt8.toNat, n ≤ hi.toNat := by
    simpa [UInt8.le_iff_toNat_le] using h
  simpa [confidenceSum_eq_sum] using List.sum_le_card_nsmul _ _ hmap

theorem le_confidenceSum {lo : UInt8} (h : ∀ c ∈ cs, lo ≤ c) :
    cs.length * lo.toNat ≤ confidenceSum cs := by
  have hmap : ∀ n ∈ cs.map UInt8.toNat, lo.toNat ≤ n := by
    simpa [UInt8.le_iff_toNat_le] using h
  simpa [confidenceSum_eq_sum] using List.card_nsmul_le_sum _ _ hmap

theorem confidenceSum_le_length (cs : List UInt8) : confidenceSum cs ≤ cs.length * 255 := by
  have hbyte : ∀ c ∈ cs, c ≤ (255 : UInt8) := by
    intro c _
    have hlt := c.toNat_lt
    rw [UInt8.le_iff_toNat_le]
    show c.toNat ≤ 255
    omega
  exact confidenceSum_le hbyte

/-- The quotient is in the range of a byte. -/
theorem toNat_mean (h : cs ≠ []) :
    (mean cs).toNat = (confidenceSum cs * 2 + cs.length) / (2 * cs.length) := by
  have hpos : 0 < cs.length := List.length_pos_iff.2 h
  have hsum := confidenceSum_le_length cs
  have hlt : (confidenceSum cs * 2 + cs.length) / (2 * cs.length) < 256 := by
    rw [Nat.div_lt_iff_lt_mul (by omega)]
    omega
  rw [mean, UInt8.toNat_ofNat', Nat.mod_eq_of_lt hlt]

/-- **The mean is within half a point**, in whole numbers. -/
theorem mean_within (h : cs ≠ []) :
    (mean cs).toNat * (2 * cs.length) ≤ confidenceSum cs * 2 + cs.length ∧
      confidenceSum cs * 2 + cs.length < ((mean cs).toNat + 1) * (2 * cs.length) := by
  have hpos : 0 < 2 * cs.length := by
    have := List.length_pos_iff.2 h
    omega
  rw [toNat_mean h]
  refine ⟨Nat.div_mul_le_self _ _, ?_⟩
  rw [Nat.mul_comm (_ + 1)]
  exact Nat.lt_mul_div_succ _ hpos

theorem le_mean {lo : UInt8} (hne : cs ≠ []) (h : ∀ c ∈ cs, lo ≤ c) : lo ≤ mean cs := by
  have hsum := le_confidenceSum h
  obtain ⟨-, hwithin⟩ := mean_within hne
  rw [UInt8.le_iff_toNat_le]
  by_contra hlt
  have hmul : cs.length * ((mean cs).toNat + 1) ≤ cs.length * lo.toNat :=
    Nat.mul_le_mul_left _ (by omega)
  linarith

theorem mean_le {hi : UInt8} (hne : cs ≠ []) (h : ∀ c ∈ cs, c ≤ hi) : mean cs ≤ hi := by
  have hpos : 0 < cs.length := List.length_pos_iff.2 hne
  have hsum := confidenceSum_le h
  obtain ⟨hwithin, -⟩ := mean_within hne
  rw [UInt8.le_iff_toNat_le]
  by_contra hlt
  have hmul : cs.length * (hi.toNat + 1) ≤ cs.length * (mean cs).toNat :=
    Nat.mul_le_mul_left _ (by omega)
  linarith

theorem mean_mono {cs' : List UInt8} (hne : cs ≠ []) (hlen : cs.length = cs'.length)
    (hsum : confidenceSum cs ≤ confidenceSum cs') : mean cs ≤ mean cs' := by
  have hne' : cs' ≠ [] := by
    rw [← List.length_pos_iff, ← hlen]
    exact List.length_pos_iff.2 hne
  rw [UInt8.le_iff_toNat_le, toNat_mean hne, toNat_mean hne', hlen]
  exact Nat.div_le_div_right (by omega)

/-- The mean of confidences, exactly. -/
def exactMean (cs : List UInt8) : ℚ := (cs.map fun c => (c.toNat : ℚ)).sum / cs.length

/-- The mean of a score is the integer nearest to the exact one, a half rounded up. -/
theorem exactMean_within (hne : cs ≠ []) :
    (mean cs).toNat - 1 / 2 ≤ exactMean cs ∧ exactMean cs < (mean cs).toNat + 1 / 2 := by
  have hpos : (0 : ℚ) < cs.length := by exact_mod_cast List.length_pos_iff.2 hne
  have hsum : (cs.map fun c => (c.toNat : ℚ)).sum = confidenceSum cs := by
    rw [confidenceSum_eq_sum, Nat.cast_list_sum, List.map_map]
    rfl
  obtain ⟨hbelow, habove⟩ := mean_within hne
  have hbelow' : ((mean cs).toNat : ℚ) * (2 * cs.length) ≤ confidenceSum cs * 2 + cs.length := by
    exact_mod_cast hbelow
  have habove' : (confidenceSum cs : ℚ) * 2 + cs.length <
      ((mean cs).toNat + 1) * (2 * cs.length) := by exact_mod_cast habove
  rw [exactMean, hsum, le_div_iff₀ hpos, div_lt_iff₀ hpos]
  constructor
  · linarith
  · linarith

/-! ## Scores of results -/

/-- The confidences that count: those of the resolved results. -/
def resolvedConfidences (rs : List MatchResult) : List UInt8 :=
  (rs.filter fun r => r.status.isResolved).map MatchResult.confidence

theorem confidence_ofResults (rs : List MatchResult) :
    (ofResults rs).confidence =
      if (resolvedConfidences rs).isEmpty then none else some (mean (resolvedConfidences rs)) :=
  rfl

theorem confidence_eq_some_iff {rs : List MatchResult} {c : UInt8} :
    (ofResults rs).confidence = some c ↔
      resolvedConfidences rs ≠ [] ∧ c = mean (resolvedConfidences rs) := by
  rw [confidence_ofResults]
  by_cases h : resolvedConfidences rs = []
  · simp [h]
  · rw [if_neg (by rwa [List.isEmpty_iff]), Option.some_inj, eq_comm]
    exact (and_iff_right h).symm

theorem resolvedConfidences_eq_nil_iff {rs : List MatchResult} :
    resolvedConfidences rs = [] ↔
      ∀ r ∈ rs, r.status ≠ .matched ∧ r.status ≠ .shortfall ∧ r.status ≠ .exception := by
  have hstatus (t : MatchStatus) :
      t.isResolved = false ↔ t ≠ .matched ∧ t ≠ .shortfall ∧ t ≠ .exception := by
    cases t <;> decide
  simp [resolvedConfidences, hstatus]

theorem length_resolvedConfidences_le (rs : List MatchResult) :
    (resolvedConfidences rs).length ≤ rs.length := by
  rw [resolvedConfidences, List.length_map]
  exact List.length_filter_le _ rs

/-- Results that are not resolved do not count, wherever they stand. -/
theorem confidence_of_perm {rs rs' extra : List MatchResult} (hperm : rs'.Perm (extra ++ rs))
    (hextra : ∀ r ∈ extra, r.status.isResolved = false) :
    (ofResults rs').confidence = (ofResults rs).confidence := by
  have hnone : resolvedConfidences extra = [] := by
    simpa [resolvedConfidences] using hextra
  have hsplit : resolvedConfidences (extra ++ rs) = resolvedConfidences rs := by
    rw [resolvedConfidences, List.filter_append, List.map_append, ← resolvedConfidences,
      ← resolvedConfidences, hnone, List.nil_append]
  rw [ofResults_perm hperm, confidence_ofResults, confidence_ofResults, hsplit]

/-- A resolved result of a larger confidence in the same place does not lower the mean. -/
theorem mean_of_replace {before after : List MatchResult} {r : MatchResult} {c : UInt8}
    (hr : r.status.isResolved = true) (hc : r.confidence ≤ c) :
    mean (resolvedConfidences (before ++ r :: after)) ≤
      mean (resolvedConfidences (before ++ { r with confidence := c } :: after)) := by
  have hsplit (x : MatchResult) (hx : x.status.isResolved = true) :
      resolvedConfidences (before ++ x :: after) =
        resolvedConfidences before ++ x.confidence :: resolvedConfidences after := by
    simp [resolvedConfidences, hx]
  rw [hsplit r hr, hsplit { r with confidence := c } hr]
  refine mean_mono (by simp) (by simp) ?_
  have hle := UInt8.le_iff_toNat_le.1 hc
  simp only [confidenceSum_eq_sum, List.map_append, List.map_cons, List.sum_append, List.sum_cons]
  omega

/-- **The confidence of an invoice is the rounded mean of its resolved results.**  All results are
counted as resolved or not.  There is a confidence just where one of them is matched, partly
matched or an exception.  It is the integer nearest to the exact mean, a half rounded up, and lies
between the least and the greatest confidence.  Neither the order of the results nor the results
that are not resolved matter to it, and it does not fall when a resolved result gets a larger
confidence.  For fewer than `2 ^ 54` results all that is computed on the way fits a machine word. -/
theorem ofResults_roundedMean (rs : List MatchResult) :
    (ofResults rs).resolved + (ofResults rs).unresolved = rs.length ∧
      ((ofResults rs).confidence = none ↔
        ∀ r ∈ rs, r.status ≠ .matched ∧ r.status ≠ .shortfall ∧ r.status ≠ .exception) ∧
      (∀ c, (ofResults rs).confidence = some c →
        c.toNat - 1 / 2 ≤ exactMean (resolvedConfidences rs) ∧
          exactMean (resolvedConfidences rs) < c.toNat + 1 / 2 ∧
          ∀ lo hi, (∀ x ∈ resolvedConfidences rs, lo ≤ x ∧ x ≤ hi) → lo ≤ c ∧ c ≤ hi) ∧
      (∀ rs' extra, rs'.Perm (extra ++ rs) → (∀ r ∈ extra, r.status.isResolved = false) →
        (ofResults rs').confidence = (ofResults rs).confidence) ∧
      (∀ before r after larger, rs = before ++ r :: after → r.status.isResolved = true →
        r.confidence ≤ larger →
        ∃ c c', (ofResults rs).confidence = some c ∧
          (ofResults (before ++ { r with confidence := larger } :: after)).confidence = some c' ∧
          c ≤ c') ∧
      (rs.length < 2 ^ 54 →
        confidenceSum (resolvedConfidences rs) * 2 + (resolvedConfidences rs).length < 2 ^ 64) := by
  have hlength := length_resolvedConfidences_le rs
  refine ⟨Nat.add_sub_cancel' hlength, ?_, ?_, fun rs' extra => confidence_of_perm, ?_, ?_⟩
  · rw [← resolvedConfidences_eq_nil_iff, confidence_ofResults]
    simp
  · intro c hc
    obtain ⟨hne, rfl⟩ := confidence_eq_some_iff.1 hc
    obtain ⟨hbelow, habove⟩ := exactMean_within hne
    refine ⟨hbelow, habove, ?_⟩
    intro lo hi hrange
    exact ⟨le_mean hne fun x hx => (hrange x hx).1, mean_le hne fun x hx => (hrange x hx).2⟩
  · rintro before r after larger rfl hr hc
    have hne (x : MatchResult) (hx : x.status.isResolved = true) :
        resolvedConfidences (before ++ x :: after) ≠ [] := by
      simp [resolvedConfidences, hx]
    exact ⟨_, _, confidence_eq_some_iff.2 ⟨hne r hr, rfl⟩,
      confidence_eq_some_iff.2 ⟨hne _ hr, rfl⟩, mean_of_replace hr hc⟩
  · intro hsize
    have hsum := confidenceSum_le_length (resolvedConfidences rs)
    omega

/-- A result of a status and a confidence. -/
def scoredResult (status : MatchStatus) (confidence : UInt8) : MatchResult where
  invoiceId := "I"
  lineNum := 1
  poLine := none
  strategy := none
  rawConfidence := confidence
  confidence := confidence
  status := status
  varianceKind := .none
  variancePct := Binary64.zero
  guardrails := []

/-- A hundred and 69 have 85 as their mean, a half rounded up, whatever else there is; with 70 in
place of 69 it is no less, and without resolved results there is none. -/
theorem halfPoint_mean :
    let rs := [scoredResult .matched 100, scoredResult .exception 69]
    (ofResults rs).confidence = some 85 ∧
      84.5 ≤ exactMean (resolvedConfidences rs) ∧ (69 : UInt8) ≤ 85 ∧ (85 : UInt8) ≤ 100 ∧
      (ofResults [scoredResult .exception 69, scoredResult .unplanned 0,
        scoredResult .matched 100]).confidence = some 85 ∧
      (∃ c', (ofResults [scoredResult .matched 100, scoredResult .exception 70]).confidence =
        some c' ∧ 85 ≤ c') ∧
      (ofResults [scoredResult .unmatched 40]).confidence = none := by
  intro rs
  have hmean : (ofResults rs).confidence = some 85 := by decide
  obtain ⟨-, -, hnearest, hperm, hreplace, -⟩ := ofResults_roundedMean rs
  obtain ⟨hbelow, -, hrange⟩ := hnearest 85 hmean
  obtain ⟨hlow, hhigh⟩ := hrange 69 100 (by decide +kernel)
  obtain ⟨-, hnone, -⟩ := ofResults_roundedMean [scoredResult .unmatched 40]
  refine ⟨hmean, ?_, hlow, hhigh, ?_, ?_, hnone.2 (by simp [scoredResult])⟩
  · have hbyte : ((85 : UInt8).toNat : ℚ) = 85 := rfl
    rw [hbyte] at hbelow
    norm_num at hbelow ⊢
    linarith
  · rw [hperm _ [scoredResult .unplanned 0] (by decide) (by decide), hmean]
  · obtain ⟨c, c', hc, hc', hle⟩ :=
      hreplace [scoredResult .matched 100] (scoredResult .exception 69) [] 70 rfl rfl (by decide)
    obtain rfl : c = 85 := Option.some.inj (hc.symm.trans hmean)
    exact ⟨c', hc', hle⟩

end Payables.InvoiceScore
