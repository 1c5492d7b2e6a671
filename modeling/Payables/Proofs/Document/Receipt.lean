import Payables.Document.Receipt
import Payables.Proofs.Decimal.Value
import Payables.Proofs.Order

/-!
# Received quantities

`Received.ofReceipts` collects what was posted against each line of a purchase order: the numbers
stand in strictly ascending order (`ofReceipts_pairwise`), and the quantity at a line is the sum of
the receipts that were posted against it (`at?_ofReceipts`), in whatever order they come
(`ofReceipts_perm`).
-/

namespace Payables

/-- The receipts that were posted against a line. -/
def GoodsReceipt.postedAgainst (rs : List GoodsReceipt) (n : ℤ) : List GoodsReceipt :=
  rs.filter fun r => r.poLineNum == some n

namespace Received

variable {received : Received} {n : ℤ} {q : Decimal}

theorem fst_of_mem_add {e : ℤ × Decimal} (h : e ∈ add n q received) :
    e.1 = n ∨ ∃ e' ∈ received, e'.1 = e.1 := by
  induction received with
  | nil =>
    obtain rfl := List.mem_singleton.1 h
    exact Or.inl rfl
  | cons x r ih =>
    obtain ⟨k, p⟩ := x
    simp only [add] at h
    split at h
    · rcases List.mem_cons.1 h with rfl | h
      · exact Or.inl rfl
      · exact Or.inr ⟨e, h, rfl⟩
    · split at h
      · rcases List.mem_cons.1 h with rfl | h
        · exact Or.inr ⟨_, List.mem_cons_self, rfl⟩
        · exact Or.inr ⟨e, List.mem_cons_of_mem _ h, rfl⟩
      · rcases List.mem_cons.1 h with rfl | h
        · exact Or.inr ⟨_, List.mem_cons_self, rfl⟩
        · rcases ih h with heq | ⟨e', he', heq⟩
          · exact Or.inl heq
          · exact Or.inr ⟨e', List.mem_cons_of_mem _ he', heq⟩

theorem add_pairwise (h : received.Pairwise fun a b => a.1 < b.1) :
    (add n q received).Pairwise fun a b => a.1 < b.1 := by
  induction received with
  | nil => exact List.pairwise_singleton _ _
  | cons x r ih =>
    obtain ⟨k, p⟩ := x
    obtain ⟨hk, hr⟩ := List.pairwise_cons.1 h
    simp only [add]
    split
    · rename_i hlt
      refine List.pairwise_cons.2 ⟨?_, h⟩
      intro e he
      rcases List.mem_cons.1 he with rfl | he
      · exact hlt
      · exact hlt.trans (hk e he)
    · split
      · exact List.pairwise_cons.2 ⟨hk, hr⟩
      · rename_i hlt hne
        refine List.pairwise_cons.2 ⟨?_, ih hr⟩
        intro e he
        rcases fst_of_mem_add he with heq | ⟨e', he', heq⟩
        · simp only [heq]
          omega
        · have := hk e' he'
          omega

/-- The quantity at the line that a receipt is posted against grows by its quantity. -/
theorem at?_add_self (h : received.Pairwise fun a b => a.1 < b.1) :
    at? (add n q received) n = some (((at? received n).getD Decimal.zero).add q) := by
  induction received with
  | nil => simp [add, at?]
  | cons x r ih =>
    obtain ⟨k, p⟩ := x
    obtain ⟨hk, hr⟩ := List.pairwise_cons.1 h
    simp only [add]
    split
    · rename_i hlt
      have hnone : at? ((k, p) :: r) n = none := by
        simp only [at?, Option.map_eq_none_iff, List.find?_eq_none, beq_iff_eq]
        intro e he
        rcases List.mem_cons.1 he with rfl | he
        · exact hlt.ne'
        · exact (hlt.trans (hk e he)).ne'
      rw [hnone]
      simp [at?]
    · split
      · rename_i heq
        simp [at?, heq]
      · rename_i hne
        simpa [at?, Ne.symm hne] using ih hr

theorem foldl_post_pairwise (rs : List GoodsReceipt)
    (h : received.Pairwise fun a b => a.1 < b.1) :
    (rs.foldl post received).Pairwise fun a b => a.1 < b.1 := by
  induction rs generalizing received with
  | nil => exact h
  | cons r rs ih =>
    refine ih ?_
    unfold post
    split
    · exact add_pairwise h
    · exact h

/-- What a list of receipts does to the quantity at one line. -/
theorem at?_foldl_post (rs : List GoodsReceipt) (h : received.Pairwise fun a b => a.1 < b.1) :
    at? (rs.foldl post received) n =
      (GoodsReceipt.postedAgainst rs n).foldl
        (fun sum r => some ((sum.getD Decimal.zero).add r.quantity)) (at? received n) := by
  induction rs generalizing received with
  | nil => rfl
  | cons r rs ih =>
    simp only [List.foldl_cons]
    cases hr : r.poLineNum with
    | none =>
      have hpost : post received r = received := by
        simp only [post, hr]
      rw [hpost, ih h]
      simp [GoodsReceipt.postedAgainst, hr]
    | some k =>
      have hpost : post received r = add k r.quantity received := by
        simp only [post, hr]
      rw [hpost, ih (add_pairwise h)]
      by_cases hk : k = n
      · subst hk
        simp [GoodsReceipt.postedAgainst, hr, at?_add_self h]
      · rw [at?_add_of_ne (Ne.symm hk)]
        simp [GoodsReceipt.postedAgainst, hr, hk]

theorem ofReceipts_pairwise (rs : List GoodsReceipt) :
    (ofReceipts rs).Pairwise fun a b => a.1 < b.1 :=
  foldl_post_pairwise rs List.Pairwise.nil

theorem foldl_getD_add (qs : List GoodsReceipt) (sum : Decimal) :
    qs.foldl (fun sum r => some ((sum.getD Decimal.zero).add r.quantity)) (some sum) =
      some ((qs.map GoodsReceipt.quantity).foldl Decimal.add sum) := by
  induction qs generalizing sum with
  | nil => rfl
  | cons r qs ih => exact ih _

/-- **The quantity at a line** is the sum of what was posted against it, if anything was. -/
theorem at?_ofReceipts (rs : List GoodsReceipt) (n : ℤ) :
    at? (ofReceipts rs) n =
      if GoodsReceipt.postedAgainst rs n = [] then none
      else some (Decimal.sum ((GoodsReceipt.postedAgainst rs n).map GoodsReceipt.quantity)) := by
  have hfold : at? (ofReceipts rs) n = (GoodsReceipt.postedAgainst rs n).foldl
      (fun sum r => some ((sum.getD Decimal.zero).add r.quantity)) none :=
    at?_foldl_post rs List.Pairwise.nil
  cases hp : GoodsReceipt.postedAgainst rs n with
  | nil =>
    rw [hp] at hfold
    exact hfold
  | cons r qs =>
    rw [hp] at hfold
    exact hfold.trans (foldl_getD_add qs _)

theorem nodup_map_fst_ofReceipts (rs : List GoodsReceipt) :
    ((ofReceipts rs).map Prod.fst).Nodup :=
  List.pairwise_map.2 ((ofReceipts_pairwise rs).imp fun h => h.ne)

theorem mem_ofReceipts_iff {rs : List GoodsReceipt} :
    (n, q) ∈ ofReceipts rs ↔ at? (ofReceipts rs) n = some q := by
  have hnodup := nodup_map_fst_ofReceipts rs
  unfold at?
  rw [Option.map_eq_some_iff]
  constructor
  · intro hmem
    exact ⟨(n, q), (find?_key_eq_some_iff Prod.fst hnodup).2 ⟨hmem, rfl⟩, rfl⟩
  · rintro ⟨⟨_, _⟩, he, rfl⟩
    obtain ⟨hmem, rfl⟩ := (find?_key_eq_some_iff Prod.fst hnodup).1 he
    exact hmem

/-- **The order of the receipts does not matter.** -/
theorem ofReceipts_perm {rs rs' : List GoodsReceipt} (h : rs.Perm rs') :
    ofReceipts rs = ofReceipts rs' := by
  have hat : ∀ n, at? (ofReceipts rs) n = at? (ofReceipts rs') n := by
    intro n
    have hposted : (GoodsReceipt.postedAgainst rs n).Perm (GoodsReceipt.postedAgainst rs' n) :=
      h.filter _
    have hnil : GoodsReceipt.postedAgainst rs n = [] ↔ GoodsReceipt.postedAgainst rs' n = [] := by
      rw [← List.length_eq_zero_iff, ← List.length_eq_zero_iff, hposted.length_eq]
    rw [at?_ofReceipts, at?_ofReceipts, Decimal.sum_perm (hposted.map _)]
    simp only [hnil]
  have hperm : (ofReceipts rs).Perm (ofReceipts rs') := by
    rw [List.perm_ext_iff_of_nodup (nodup_map_fst_ofReceipts rs).of_map
      (nodup_map_fst_ofReceipts rs').of_map]
    rintro ⟨n, q⟩
    rw [mem_ofReceipts_iff, mem_ofReceipts_iff, hat]
  exact hperm.eq_of_pairwise (fun _ _ _ _ hab hba => absurd hba (lt_asymm hab))
    (ofReceipts_pairwise rs) (ofReceipts_pairwise rs')

end Received
end Payables
