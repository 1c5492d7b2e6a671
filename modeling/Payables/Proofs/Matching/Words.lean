import Payables.Proofs.Order
import Payables.Proofs.Binary64.Close
import Payables.Proofs.Matching.Similarity

/-!
# The words of a description

A description counts as the set of its words, and two sets of words are compared by what they
share.

* `toFinset_ofText_push_append` — what stands on the two sides of a separator gives its words
  apart.
* `ofText_eq_of_renders` — so only the words that a text renders count: not their order, not how
  often they occur, and not what separates them.
* `similarity_eq_ofMagnitude` — a similarity is the number nearest to the exact share, as long as
  the words can be counted without rounding, and close to it beyond that (`similarity_close`).
* `words_and_similarity` — all of it, with the two ends of the scale: nothing in common, and the
  same words.
-/

namespace Payables

theorem eq_of_textLt_eq_false {x y : String} (hxy : textLt x y = false) (hyx : textLt y x = false) :
    x = y := by
  simp only [textLt, decide_eq_false_iff_not, not_lt] at *
  exact le_antisymm hyx hxy

theorem textLt_trans {x y z : String} (hxy : textLt x y = true) (hyz : textLt y z = true) :
    textLt x z = true := by
  simp only [textLt, decide_eq_true_eq] at *
  exact hxy.trans hyz

theorem textLt_asymm {x y : String} (hxy : textLt x y = true) : ¬textLt y x = true := by
  simp only [textLt, decide_eq_true_eq] at *
  exact lt_asymm hxy

open Binary64

namespace TokenSet

/-! ## Sets as ascending lists -/

/-- Words in strictly ascending order: each word stands once, at its place. -/
def Ascending (a : TokenSet) : Prop := a.Pairwise fun x y => textLt x y = true

variable {a b : TokenSet}

theorem Ascending.nodup (h : a.Ascending) : a.Nodup := by
  refine h.imp ?_
  rintro x y hxy rfl
  exact textLt_asymm hxy hxy

/-- A set of words stands in one way only. -/
theorem Ascending.ext (ha : a.Ascending) (hb : b.Ascending) (h : a.toFinset = b.toFinset) :
    a = b := by
  have hperm : a.Perm b := by
    rw [List.perm_ext_iff_of_nodup ha.nodup hb.nodup]
    intro w
    rw [← List.mem_toFinset, h, List.mem_toFinset]
  exact hperm.eq_of_pairwise (fun x y _ _ hxy hyx => absurd hyx (textLt_asymm hxy)) ha hb

theorem ascending_ofText (s : String) : (ofText s).Ascending :=
  sortUnique_pairwise (fun _ _ => eq_of_textLt_eq_false) (fun _ _ _ => textLt_trans) _

theorem mem_ofText_iff {s w : String} :
    w ∈ ofText s ↔ ∃ run ∈ runs s.toList, word? run = some w := by
  rw [ofText, mem_sortUnique fun _ _ => eq_of_textLt_eq_false, List.mem_filterMap]

/-! ## Words and separators -/

/-- What stands before a separator and what stands behind it give their words apart. -/
theorem toFinset_ofText_push_append {c : Char} (hc : Text.isAlphanumeric c = false)
    (s t : String) :
    (ofText (s.push c ++ t)).toFinset = (ofText s).toFinset ∪ (ofText t).toFinset := by
  have hlist : (s.push c ++ t).toList = s.toList ++ c :: t.toList := by simp
  ext w
  rw [Finset.mem_union, List.mem_toFinset, List.mem_toFinset, List.mem_toFinset, mem_ofText_iff,
    mem_ofText_iff, mem_ofText_iff, hlist, runs_append_separator _ _ hc]
  simp only [List.mem_append, or_and_right, exists_or]

/-- A text that shows words one after another.  A separator stands behind each word but the last,
and there may be any number of further separators. -/
inductive Renders : List String → String → Prop
  | empty : Renders [] ""
  | last (w : String) : Renders [w] w
  | word {c : Char} {ws : List String} {s : String} (hc : Text.isAlphanumeric c = false)
      (w : String) (h : Renders ws s) : Renders (w :: ws) (w.push c ++ s)
  | separator {c : Char} {ws : List String} {s : String} (hc : Text.isAlphanumeric c = false)
      (h : Renders ws s) : Renders ws (String.singleton c ++ s)

/-- The words of a text are those of what it renders, whatever separates that. -/
theorem mem_ofText_of_renders {ws : List String} {s : String} (h : Renders ws s) (t : String) :
    t ∈ ofText s ↔ ∃ w ∈ ws, t ∈ ofText w := by
  have hsplit {c : Char} (hc : Text.isAlphanumeric c = false) (w s : String) :
      t ∈ ofText (w.push c ++ s) ↔ t ∈ ofText w ∨ t ∈ ofText s := by
    rw [← List.mem_toFinset, toFinset_ofText_push_append hc, Finset.mem_union, List.mem_toFinset,
      List.mem_toFinset]
  have hempty : ofText "" = [] := by decide
  induction h with
  | empty => simp [hempty]
  | last w => simp
  | word hc w _ ih =>
    simp only [hsplit hc, ih, List.exists_mem_cons_iff]
  | @separator c ws s hc _ ih =>
    have hfront := hsplit hc "" s
    rw [hempty, String.push_empty] at hfront
    simp only [hfront, ih, List.not_mem_nil, false_or]

/-- **Only the words count.**  Two texts that render the same words have the same words, whatever
their order, however often each is repeated, and whatever separates them. -/
theorem ofText_eq_of_renders {ws ws' : List String} {s s' : String} (h : Renders ws s)
    (h' : Renders ws' s') (hwords : ∀ w, w ∈ ws ↔ w ∈ ws') : ofText s = ofText s' := by
  refine (ascending_ofText s).ext (ascending_ofText s') ?_
  ext t
  simp only [List.mem_toFinset, mem_ofText_of_renders h, mem_ofText_of_renders h', hwords]

/-! ## Counting words -/

theorem common_eq_card (ha : a.Ascending) : common a b = (a.toFinset ∩ b.toFinset).card := by
  have hset : a.toFinset ∩ b.toFinset = (a.filter fun t => b.contains t).toFinset := by
    ext t
    simp
  rw [hset, List.toFinset_card_of_nodup (ha.nodup.filter _), common]

theorem either_eq_card (ha : a.Ascending) (hb : b.Ascending) :
    either a b = (a.toFinset ∪ b.toFinset).card := by
  have hset : a.toFinset ∪ b.toFinset = (a ++ b.filter fun t => !a.contains t).toFinset := by
    ext t
    by_cases h : t ∈ a <;> simp [h]
  have hnodup : (a ++ b.filter fun t => !a.contains t).Nodup := by
    refine ha.nodup.append (hb.nodup.filter _) ?_
    intro t hta htb
    simp_all
  rw [hset, List.toFinset_card_of_nodup hnodup, List.length_append, either]

theorem common_le_either (a b : TokenSet) : common a b ≤ either a b :=
  (common_le_left a b).trans (left_le_either a b)

/-- The share of the words of either set that stands in both, exactly. -/
def share (a b : TokenSet) : ℚ :=
  (a.toFinset ∩ b.toFinset).card / (a.toFinset ∪ b.toFinset).card

theorem share_eq (ha : a.Ascending) (hb : b.Ascending) :
    share a b = common a b / either a b := by
  rw [share, common_eq_card ha, either_eq_card ha hb]

theorem similarity_comm (ha : a.Ascending) (hb : b.Ascending) :
    a.similarity b = b.similarity a := by
  have hcommon : common a b = common b a := by
    rw [common_eq_card ha, common_eq_card hb, Finset.inter_comm]
  have heither : either a b = either b a := by
    rw [either_eq_card ha hb, either_eq_card hb ha, Finset.union_comm]
  rw [similarity, similarity, hcommon, heither]

/-- Only a set and itself have all words in common. -/
theorem common_eq_either_iff (ha : a.Ascending) (hb : b.Ascending) :
    common a b = either a b ↔ a = b := by
  rw [common_eq_card ha, either_eq_card ha hb]
  constructor
  · intro hcard
    have hsub : a.toFinset ∩ b.toFinset ⊆ a.toFinset ∪ b.toFinset :=
      Finset.inter_subset_left.trans Finset.subset_union_left
    exact ha.ext hb (inf_eq_sup.1 (Finset.eq_of_subset_of_card_le hsub hcard.ge))
  · rintro rfl
    rw [Finset.inter_self, Finset.union_self]

theorem either_self (ha : a.Ascending) : either a a = a.length := by
  rw [either_eq_card ha ha, Finset.union_self, List.toFinset_card_of_nodup ha.nodup]

end TokenSet

/-! ## Similarities and shares -/

theorem Binary64.ofMagnitude_zero : ofMagnitude false 0 = Binary64.zero := by decide +kernel

/-- A count of a machine word is a finite number, at most one rounding off. -/
theorem Binary64.ofNat_close {n : ℕ} (hpos : 0 < n) (hn : n < 2 ^ 64) :
    Binary64.ofNat n = finite false (roundMagnitude n) ∧ Close 1 (n : ℚ) (roundMagnitude n) := by
  have hgrid : OnGrid ((2 : ℚ) ^ (64 : ℤ)) := by
    have h := onGrid_zpow (n := 1) (e := 64) (by norm_num) (by norm_num)
    rwa [Nat.cast_one, one_mul] at h
  have hle : (n : ℚ) ≤ 2 ^ (64 : ℤ) := by exact_mod_cast hn.le
  have hone : (1 : ℚ) ≤ n := by exact_mod_cast hpos
  refine ⟨?_, close_round (tiny_le_one.trans hone)⟩
  rw [ofNat_eq_ofMagnitude]
  exact ofMagnitude_of_le (Nat.cast_nonneg n) hgrid hle
    (zpow_lt_zpow_right₀ (by norm_num) (by norm_num))

namespace TokenSet

variable {a b : TokenSet}

/-- Words that can be counted exactly have the exact share as their similarity, rounded once. -/
theorem similarity_eq_ofMagnitude (hsize : either a b < 2 ^ 53) :
    a.similarity b = ofMagnitude false (common a b / either a b) := by
  unfold similarity
  by_cases hzero : either a b = 0
  · rw [if_pos hzero, hzero, Nat.cast_zero, div_zero, ofMagnitude_zero]
  · have hne : ((either a b : ℕ) : ℚ) ≠ 0 := by exact_mod_cast hzero
    rw [if_neg hzero, ofNat_eq_finite ((common_le_either a b).trans_lt hsize),
      ofNat_eq_finite hsize]
    simp only [Binary64.div, if_neg hne, bne_self_eq_false]

/-- As long as the words fit a machine word, a similarity is the share up to three roundings: one
for each count and one for the quotient. -/
theorem similarity_close (hcommon : 0 < common a b) (hsize : either a b < 2 ^ 64) :
    ∃ m, a.similarity b = finite false m ∧ Close 3 ((common a b : ℚ) / either a b) m := by
  have hle := common_le_either a b
  have hpos : 0 < either a b := hcommon.trans_le hle
  obtain ⟨hi, hiclose⟩ := ofNat_close hcommon (hle.trans_lt hsize)
  obtain ⟨hu, huclose⟩ := ofNat_close hpos hsize
  have hquotient := hiclose.mul huclose.inv
  rw [← div_eq_mul_inv, ← div_eq_mul_inv] at hquotient
  have hpos' : (0 : ℚ) < either a b := by exact_mod_cast hpos
  have hhigh : (common a b : ℚ) / either a b ≤ 10 ^ (305 : ℤ) := by
    have hone : (common a b : ℚ) / either a b ≤ 1 := by
      rw [div_le_one hpos']
      exact_mod_cast hle
    exact hone.trans (one_le_zpow₀ (by norm_num) (by norm_num))
  have hlow : (10 : ℚ) ^ (-305 : ℤ) ≤ common a b / either a b := by
    have hnum : (1 : ℚ) ≤ common a b := by exact_mod_cast hcommon
    have hden : (either a b : ℚ) ≤ 2 ^ 64 := by exact_mod_cast hsize.le
    calc (10 : ℚ) ^ (-305 : ℤ) ≤ 10 ^ (-20 : ℤ) := ten_zpow_le (by norm_num)
      _ ≤ 1 / 2 ^ 64 := by norm_num
      _ ≤ common a b / either a b := div_le_div₀ (by positivity) hnum hpos' hden
  obtain ⟨m, hm, hclose⟩ := ofMagnitude_close (s := false) hquotient (by norm_num) hlow hhigh
  refine ⟨m, ?_, hclose⟩
  rw [similarity, if_neg hpos.ne', hi, hu, ← hm]
  simp only [Binary64.div, if_neg huclose.pos_right.ne', bne_self_eq_false]

/-- Sets that share no word have similarity zero, however many words they have. -/
theorem similarity_of_common_eq_zero (h : common a b = 0) : a.similarity b = Binary64.zero := by
  unfold similarity
  by_cases hzero : either a b = 0
  · rw [if_pos hzero]
  rw [if_neg hzero, h, ofNat_eq_ofMagnitude, ofNat_eq_ofMagnitude, Nat.cast_zero,
    ofMagnitude_zero]
  rcases ofMagnitude_cases false (either a b) with ⟨-, -, hu⟩ | ⟨-, hu⟩ <;> rw [hu]
  · have hpos : 0 < roundMagnitude (either a b) :=
      one_pos.trans_le (one_le_roundMagnitude (Nat.pos_of_ne_zero hzero))
    simp only [Binary64.zero, Binary64.div, if_neg hpos.ne', bne_self_eq_false, zero_div]
    exact ofMagnitude_zero
  · rfl

theorem similarity_eq_zero_iff (hsize : either a b < 2 ^ 64) :
    a.similarity b = Binary64.zero ↔ common a b = 0 := by
  refine ⟨?_, similarity_of_common_eq_zero⟩
  intro hsim
  by_contra hne
  obtain ⟨m, hm, hclose⟩ := similarity_close (Nat.pos_of_ne_zero hne) hsize
  rw [hsim] at hm
  cases hm
  exact lt_irrefl 0 hclose.pos_right

/-- One less the share of a single word out of `2 ^ 53` is a number, so that a share below one stays
below one when it is rounded. -/
theorem similarity_eq_one_iff (hsize : either a b < 2 ^ 53) :
    a.similarity b = Binary64.ofNat 1 ↔ common a b = either a b ∧ either a b ≠ 0 := by
  have hone : Binary64.ofNat 1 = finite false 1 := ofNat_eq_finite (n := 1) (by norm_num)
  have hgrid : OnGrid (1 - (2 : ℚ) ^ (-53 : ℤ)) :=
    onGrid_of_mul_two_pow (n := 2 ^ 53 - 1) (k := 53) (by norm_num) (by norm_num) (by norm_num)
  rw [similarity_eq_ofMagnitude hsize, hone]
  constructor
  · intro heq
    obtain ⟨-, hround, -⟩ := ofMagnitude_eq_finite heq
    have hne : either a b ≠ 0 := by
      intro hzero
      rw [hzero, Nat.cast_zero, div_zero, roundMagnitude_zero] at hround
      exact one_ne_zero hround
    refine ⟨(common_le_either a b).eq_of_not_lt ?_, hne⟩
    intro hlt
    have hpos : (0 : ℚ) < either a b := by exact_mod_cast Nat.pos_of_ne_zero hne
    have hcount : (common a b : ℚ) + 1 ≤ either a b := by exact_mod_cast hlt
    have hsize' : (either a b : ℚ) ≤ 2 ^ 53 := by exact_mod_cast hsize.le
    have hbelow : (common a b : ℚ) / either a b ≤ 1 - 2 ^ (-53 : ℤ) := by
      rw [div_le_iff₀ hpos]
      have hunit : (either a b : ℚ) * 2 ^ (-53 : ℤ) ≤ 1 := by
        rw [zpow_neg, ← div_eq_mul_inv, div_le_one (by positivity)]
        exact_mod_cast hsize'
      linarith
    have hle := hgrid.round_le (div_nonneg (Nat.cast_nonneg _) hpos.le) hbelow
    rw [← hround] at hle
    have := two_zpow_pos (-53)
    linarith
  · rintro ⟨heq, hne⟩
    have hcast : ((either a b : ℕ) : ℚ) ≠ 0 := by exact_mod_cast hne
    rw [heq, div_self hcast, ← hone, ofNat_eq_ofMagnitude, Nat.cast_one]

/-! ## All together -/

/-- **Descriptions are compared by their words.**  A separator splits a description into parts whose
words add up, so neither the order of words, nor their repetition, nor what separates them
matters.  The similarity of two sets of words is symmetric and is the share of the words that
they have in common: rounded once as long as all words can be counted exactly, and within a
millionth of a millionth where they only fit a machine word.  It is zero just for disjoint sets
and one just for a set and itself, the empty one apart. -/
theorem words_and_similarity :
    (∀ (s t : String) (c : Char), Text.isAlphanumeric c = false →
      (ofText (s.push c ++ t)).toFinset = (ofText s).toFinset ∪ (ofText t).toFinset) ∧
    (∀ ws ws' s s', Renders ws s → Renders ws' s' → (∀ w, w ∈ ws ↔ w ∈ ws') →
      ofText s = ofText s' ∧ ∀ a, a.similarity (ofText s) = a.similarity (ofText s') ∧
        (ofText s).similarity a = (ofText s').similarity a) ∧
    (∀ s, (ofText s).Ascending) ∧
    ∀ a b : TokenSet, a.Ascending → b.Ascending →
      a.similarity b = b.similarity a ∧
      ((a.toFinset ∪ b.toFinset).card < 2 ^ 53 → a.similarity b = Binary64.ofRat (share a b)) ∧
      ((a.toFinset ∪ b.toFinset).card < 2 ^ 64 →
        ∃ m, a.similarity b = finite false m ∧ |m - share a b| ≤ share a b / 10 ^ 12) ∧
      (Disjoint a.toFinset b.toFinset → a.similarity b = Binary64.zero) ∧
      ((a.toFinset ∪ b.toFinset).card < 2 ^ 64 →
        (a.similarity b = Binary64.zero ↔ Disjoint a.toFinset b.toFinset)) ∧
      ((a.toFinset ∪ b.toFinset).card < 2 ^ 53 →
        (a.similarity b = Binary64.ofNat 1 ↔ a = b ∧ a ≠ [])) := by
  refine ⟨fun s t c hc => toFinset_ofText_push_append hc s t, ?_, ascending_ofText, ?_⟩
  · intro ws ws' s s' h h' hwords
    have heq := ofText_eq_of_renders h h' hwords
    exact ⟨heq, fun a => by rw [heq]; exact ⟨rfl, rfl⟩⟩
  intro a b ha hb
  have hshare : 0 ≤ share a b := div_nonneg (Nat.cast_nonneg _) (Nat.cast_nonneg _)
  have hdisjoint : common a b = 0 ↔ Disjoint a.toFinset b.toFinset := by
    rw [common_eq_card ha, Finset.card_eq_zero, Finset.disjoint_iff_inter_eq_empty]
  rw [← either_eq_card ha hb, ← hdisjoint]
  refine ⟨similarity_comm ha hb, ?_, ?_, similarity_of_common_eq_zero, similarity_eq_zero_iff, ?_⟩
  · intro hsize
    rw [similarity_eq_ofMagnitude hsize, ← share_eq ha hb, ofRat_of_nonneg hshare]
  · intro hsize
    rcases Nat.eq_zero_or_pos (common a b) with hzero | hpos
    · refine ⟨0, similarity_of_common_eq_zero hzero, ?_⟩
      rw [share_eq ha hb, hzero, Nat.cast_zero, zero_div, sub_zero, abs_zero, zero_div]
    · obtain ⟨m, hm, hclose⟩ := similarity_close hpos hsize
      rw [← share_eq ha hb] at hclose
      exact ⟨m, hm, hclose.abs_sub_le (by norm_num)⟩
  · intro hsize
    rw [similarity_eq_one_iff hsize, common_eq_either_iff ha hb]
    exact and_congr_right fun heq => by rw [heq, either_self hb, ne_eq, List.length_eq_zero_iff]

/-- Hex bolts in two spellings.  The order of the words, a repetition and the punctuation do not
matter, and two of the three words of another article are the same. -/
theorem hexBolts_similar :
    Text.isAlphanumeric ',' = false ∧ Renders ["hex", "bolt"] "hex bolt" ∧
      Renders ["bolt", "hex", "bolt"] "bolt,;hex; bolt" ∧
      (ofText "hex,bolt").toFinset = (ofText "hex").toFinset ∪ (ofText "bolt").toFinset ∧
      ofText "hex bolt" = ofText "bolt,;hex; bolt" ∧
      (ofText "m8 hex bolt").similarity (ofText "bolt,;hex; bolt") = Binary64.ofRat (2 / 3) ∧
      (ofText "hex bolt").similarity (ofText "bolt,;hex; bolt") = Binary64.ofNat 1 ∧
      (ofText "hex bolt").similarity (ofText "nut") = Binary64.zero := by
  obtain ⟨hsplit, hrenders, hascending, hsimilar⟩ := words_and_similarity
  have hcomma : Text.isAlphanumeric ',' = false := by decide
  have hsemicolon : Text.isAlphanumeric ';' = false := by decide
  have hblank : Text.isAlphanumeric ' ' = false := by decide
  have hplain : Renders ["hex", "bolt"] "hex bolt" := .word hblank "hex" (.last "bolt")
  have hmixed : Renders ["bolt", "hex", "bolt"] "bolt,;hex; bolt" :=
    .word hcomma "bolt" (.separator hsemicolon (.word hsemicolon "hex"
      (.separator hblank (.last "bolt"))))
  obtain ⟨hsame, -⟩ := hrenders _ _ _ _ hplain hmixed (by simp [or_comm])
  obtain ⟨-, hratio, -⟩ := hsimilar _ _ (hascending "m8 hex bolt") (hascending "bolt,;hex; bolt")
  obtain ⟨-, -, -, -, -, hone⟩ :=
    hsimilar _ _ (hascending "hex bolt") (hascending "bolt,;hex; bolt")
  obtain ⟨-, -, -, hnone, -⟩ := hsimilar _ _ (hascending "hex bolt") (hascending "nut")
  refine ⟨hcomma, hplain, hmixed, hsplit "hex" "bolt" ',' hcomma, hsame, ?_, ?_, ?_⟩
  · rw [hratio (by decide +kernel)]
    decide +kernel
  · exact (hone (by decide +kernel)).2 ⟨hsame, by decide +kernel⟩
  · exact hnone (by decide +kernel)

end TokenSet
end Payables
