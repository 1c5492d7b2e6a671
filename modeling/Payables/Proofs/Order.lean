import Mathlib
import Payables.Order

/-!
# Lists with keys

* `find?_key_eq_some_iff` — where no key occurs twice, a search by key finds what is there, in
  whatever order the list stands (`find?_key_eq_of_perm`).  In a list in ascending order a search
  finds the least key (`find?_le_of_pairwise`).
* `sortBy_eq_insertionSort` — `sortBy` is `List.insertionSort` for the relation that its comparison
  decides, so it rearranges a list (`sortBy_perm`) and puts it in the order of a total preorder
  (`sortBy_pairwise_le`).
* `sortBy_pairwise` — sorting by a key leaves the keys in ascending order, strictly where no key
  occurs twice (`sortBy_pairwise_lt`).  There the result is the only such list (`eq_sortBy`), so it
  does not depend on the order that the list came in (`sortBy_eq_of_perm`).
* `filter_sortBy_le`, `filter_sortBy` — sorting keeps the order of what it cannot tell apart, so it
  does not matter whether a list is sorted first or filtered.
* `sortUnique_pairwise`, `mem_sortUnique` — `sortUnique` lists the elements of a list in strictly
  ascending order.
-/

namespace Payables

variable {α : Type}

theorem find?_key_eq_some_iff {β : Type} [BEq β] [LawfulBEq β] (key : α → β) {xs : List α}
    (h : (xs.map key).Nodup) {k : β} {x : α} :
    (xs.find? fun y => key y == k) = some x ↔ x ∈ xs ∧ key x = k := by
  constructor
  · intro hx
    exact ⟨List.mem_of_find?_eq_some hx, by simpa using List.find?_some hx⟩
  · rintro ⟨hmem, rfl⟩
    cases hy : xs.find? fun y => key y == key x with
    | none => exact absurd (List.find?_eq_none.1 hy x hmem) (by simp)
    | some y =>
      have hkey : key y = key x := by simpa using List.find?_some hy
      rw [List.inj_on_of_nodup_map h (List.mem_of_find?_eq_some hy) hmem hkey]

/-- A search by key does not see the order of a list in which no key occurs twice. -/
theorem find?_key_eq_of_perm {β : Type} [BEq β] [LawfulBEq β] (key : α → β) {xs ys : List α}
    (hperm : xs.Perm ys) (h : (xs.map key).Nodup) (k : β) :
    (xs.find? fun x => key x == k) = ys.find? fun y => key y == k := by
  have h' : (ys.map key).Nodup := (hperm.map key).nodup_iff.1 h
  refine Option.ext fun x => ?_
  rw [find?_key_eq_some_iff key h, find?_key_eq_some_iff key h', hperm.mem_iff]

/-- A search in ascending order finds the lowest of what it looks for. -/
theorem find?_le_of_pairwise (key : α → ℤ) {p : α → Bool} {xs : List α} {x y : α}
    (hxs : xs.Pairwise fun a b => key a ≤ key b) (h : xs.find? p = some x) (hy : y ∈ xs)
    (hp : p y = true) : key x ≤ key y := by
  obtain ⟨-, before, after, rfl, hbefore⟩ := List.find?_eq_some_iff_append.1 h
  rcases List.mem_append.1 hy with hy | hy
  · have hnot := hbefore y hy
    rw [hp] at hnot
    cases hnot
  · rcases List.mem_cons.1 hy with rfl | hy
    · exact le_rfl
    · exact (List.pairwise_cons.1 (List.pairwise_append.1 hxs).2.1).1 y hy

/-! ## Sorting -/

theorem insertBy_eq_orderedInsert (le : α → α → Bool) (x : α) (l : List α) :
    insertBy le x l = l.orderedInsert (fun a b => le a b = true) x := by
  induction l with
  | nil => rfl
  | cons y r ih => rw [insertBy, List.orderedInsert_cons, ih]

theorem sortBy_eq_insertionSort (le : α → α → Bool) (l : List α) :
    sortBy le l = l.insertionSort fun a b => le a b = true := by
  induction l with
  | nil => rfl
  | cons x r ih => rw [sortBy, insertBy_eq_orderedInsert, ih, List.insertionSort_cons]

/-- Sorting only rearranges. -/
theorem sortBy_perm (le : α → α → Bool) (l : List α) : (sortBy le l).Perm l := by
  rw [sortBy_eq_insertionSort]
  exact List.perm_insertionSort _ l

@[simp] theorem mem_sortBy {le : α → α → Bool} {y : α} {l : List α} :
    y ∈ sortBy le l ↔ y ∈ l :=
  (sortBy_perm le l).mem_iff

@[simp] theorem length_sortBy (le : α → α → Bool) (l : List α) :
    (sortBy le l).length = l.length :=
  (sortBy_perm le l).length_eq

/-- What may precede every element of a list is put in front. -/
theorem insertBy_of_forall_le {le : α → α → Bool} {x : α} {l : List α}
    (h : ∀ y ∈ l, le x y = true) : insertBy le x l = x :: l := by
  cases l with
  | nil => rfl
  | cons y r => rw [insertBy, if_pos (h y List.mem_cons_self)]

section Total

variable {le : α → α → Bool} (total : ∀ a b, le a b = true ∨ le b a = true)
  (trans : ∀ a b c, le a b = true → le b c = true → le a c = true)

include total trans

/-- Sorting by a total preorder leaves a list in its order. -/
theorem sortBy_pairwise_le (l : List α) : (sortBy le l).Pairwise fun a b => le a b = true := by
  have : Std.Total fun a b => le a b = true := ⟨total⟩
  have : IsTrans α fun a b => le a b = true := ⟨trans⟩
  rw [sortBy_eq_insertionSort]
  exact List.pairwise_insertionSort _ l

omit total in
/-- An element that is inserted into a sorted list stands in one place among those that a filter
leaves. -/
theorem filter_insertBy {x : α} {l : List α} (h : l.Pairwise fun a b => le a b = true)
    (keep : α → Bool) :
    (insertBy le x l).filter keep =
      if keep x then insertBy le x (l.filter keep) else l.filter keep := by
  induction l with
  | nil => cases hx : keep x <;> simp [insertBy, hx]
  | cons y r ih =>
    obtain ⟨hy, hr⟩ := List.pairwise_cons.1 h
    by_cases hxy : le x y = true
    · -- the element goes to the front, also of what is left
      have hall : ∀ z ∈ y :: r, le x z = true := by
        intro z hz
        rcases List.mem_cons.1 hz with rfl | hz
        · exact hxy
        · exact trans x y z hxy (hy z hz)
      have hleft : ∀ z ∈ (y :: r).filter keep, le x z = true :=
        fun z hz => hall z (List.mem_of_mem_filter hz)
      rw [insertBy_of_forall_le hall, insertBy_of_forall_le hleft, List.filter_cons]
    · rw [insertBy, if_neg hxy, List.filter_cons, List.filter_cons, ih hr]
      cases hx : keep x <;> cases hk : keep y <;> simp [insertBy, hxy]

/-- **Sorting is stable**, so filtering commutes with it. -/
theorem filter_sortBy_le (l : List α) (keep : α → Bool) :
    (sortBy le l).filter keep = sortBy le (l.filter keep) := by
  induction l with
  | nil => rfl
  | cons x r ih =>
    rw [sortBy, filter_insertBy trans (sortBy_pairwise_le total trans r), ih, List.filter_cons]
    split <;> rfl

end Total

/-! ## Sorting by a key -/

section Key

variable (key : α → ℤ)

theorem intLe_total (a b : α) :
    intLe (key a) (key b) = true ∨ intLe (key b) (key a) = true := by
  simpa [intLe] using le_total (key a) (key b)

theorem intLe_trans (a b c : α) (hab : intLe (key a) (key b) = true)
    (hbc : intLe (key b) (key c) = true) : intLe (key a) (key c) = true := by
  simp only [intLe, decide_eq_true_eq] at *
  exact hab.trans hbc

/-- Sorting leaves the keys in ascending order. -/
theorem sortBy_pairwise (l : List α) :
    (sortBy (fun a b => intLe (key a) (key b)) l).Pairwise fun a b => key a ≤ key b := by
  have hsorted : (sortBy (fun a b => intLe (key a) (key b)) l).Pairwise
      fun a b => intLe (key a) (key b) = true :=
    sortBy_pairwise_le (intLe_total key) (intLe_trans key) l
  exact hsorted.imp of_decide_eq_true

/-- Distinct keys stand in strictly ascending order. -/
theorem sortBy_pairwise_lt {l : List α} (h : (l.map key).Nodup) :
    (sortBy (fun a b => intLe (key a) (key b)) l).Pairwise fun a b => key a < key b := by
  have hnodup : ((sortBy (fun a b => intLe (key a) (key b)) l).map key).Nodup :=
    ((sortBy_perm _ l).map key).nodup_iff.2 h
  have hne := List.pairwise_map.1 hnodup
  refine ((sortBy_pairwise key l).and hne).imp ?_
  rintro a b ⟨hle, hne⟩
  omega

/-- A list that is sorted already, up to the order of its elements. -/
theorem eq_sortBy {l l' : List α} (hperm : l'.Perm l) (h : l'.Pairwise fun a b => key a < key b) :
    l' = sortBy (fun a b => intLe (key a) (key b)) l := by
  have hnodup : (l.map key).Nodup := by
    rw [← (hperm.map key).nodup_iff]
    exact List.pairwise_map.2 (h.imp fun hlt => hlt.ne)
  refine (hperm.trans (sortBy_perm _ l).symm).eq_of_pairwise ?_ h (sortBy_pairwise_lt key hnodup)
  intro a b _ _ hab hba
  exact absurd hba (lt_asymm hab)

/-- The order that a list came in is gone once it is sorted, where no key occurs twice. -/
theorem sortBy_eq_of_perm {l l' : List α} (hperm : l.Perm l') (h : (l.map key).Nodup) :
    sortBy (fun a b => intLe (key a) (key b)) l = sortBy (fun a b => intLe (key a) (key b)) l' :=
  eq_sortBy key ((sortBy_perm _ l).trans hperm) (sortBy_pairwise_lt key h)

/-- It does not matter whether a list is sorted first or filtered. -/
theorem filter_sortBy (l : List α) (keep : α → Bool) :
    (sortBy (fun a b => intLe (key a) (key b)) l).filter keep =
      sortBy (fun a b => intLe (key a) (key b)) (l.filter keep) :=
  filter_sortBy_le (intLe_total key) (intLe_trans key) l keep

end Key

/-! ## Sorting without repetition -/

section Unique

variable {lt : α → α → Bool} {x : α} {l : List α}

/-- An insertion keeps a strictly ascending list strictly ascending. -/
theorem insertUnique_pairwise (tri : ∀ a b, lt a b = false → lt b a = false → a = b)
    (trans : ∀ a b c, lt a b = true → lt b c = true → lt a c = true)
    (h : l.Pairwise fun a b => lt a b = true) :
    (insertUnique lt x l).Pairwise fun a b => lt a b = true := by
  induction l with
  | nil => exact List.pairwise_singleton _ x
  | cons y r ih =>
    obtain ⟨hy, hr⟩ := List.pairwise_cons.1 h
    simp only [insertUnique]
    split
    · rename_i hxy
      refine List.pairwise_cons.2 ⟨?_, h⟩
      intro z hz
      rcases List.mem_cons.1 hz with rfl | hz
      · exact hxy
      · exact trans x y z hxy (hy z hz)
    · split
      · rename_i hyx
        refine List.pairwise_cons.2 ⟨?_, ih hr⟩
        intro z hz
        rcases (mem_insertUnique tri).1 hz with rfl | hz
        · exact hyx
        · exact hy z hz
      · exact h

theorem sortUnique_concat (lt : α → α → Bool) (l : List α) (x : α) :
    sortUnique lt (l ++ [x]) = insertUnique lt x (sortUnique lt l) := by
  rw [sortUnique, List.foldl_append]
  rfl

theorem sortUnique_pairwise (tri : ∀ a b, lt a b = false → lt b a = false → a = b)
    (trans : ∀ a b c, lt a b = true → lt b c = true → lt a c = true) (l : List α) :
    (sortUnique lt l).Pairwise fun a b => lt a b = true := by
  induction l using List.reverseRecOn with
  | nil => exact List.Pairwise.nil
  | append_singleton l x ih =>
    rw [sortUnique_concat]
    exact insertUnique_pairwise tri trans ih

theorem mem_sortUnique (tri : ∀ a b, lt a b = false → lt b a = false → a = b) :
    x ∈ sortUnique lt l ↔ x ∈ l := by
  induction l using List.reverseRecOn with
  | nil => rfl
  | append_singleton l y ih =>
    rw [sortUnique_concat, mem_insertUnique tri, ih, List.mem_append, List.mem_singleton]
    exact or_comm

end Unique

end Payables
