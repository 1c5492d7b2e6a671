import Mathlib
import Payables.Order

/-!
# Lists that are related place by place

What looks at elements only in ways on which related elements agree does the same on two lists that
are related place by place.

* `related_mem`, `exists_of_related`, `getElem?_of_related`, `option_related_cases`,
  `related_of_mapIdx_eq` — what belongs together.
* `eq_map_of_getElem?`, `map_eq_of_related`, `any_eq_of_related`, `zipWith_eq_of_related` — what is
  equal on both lists.
* `filter_related`, `find?_related`, `sortBy_related` — what stays related.
-/

namespace Payables

section Related

variable {α β γ : Type} {R : α → β → Prop} {xs : List α} {ys : List β}

theorem related_mem (h : List.Forall₂ R xs ys) :
    List.Forall₂ (fun x y => R x y ∧ x ∈ xs ∧ y ∈ ys) xs ys := by
  induction h with
  | nil => exact List.Forall₂.nil
  | cons hxy _ ih =>
    refine List.Forall₂.cons ⟨hxy, List.mem_cons_self, List.mem_cons_self⟩ (ih.imp ?_)
    rintro x y ⟨hR, hx, hy⟩
    exact ⟨hR, List.mem_cons_of_mem _ hx, List.mem_cons_of_mem _ hy⟩

theorem exists_of_related {y : β} (h : List.Forall₂ R xs ys) (hy : y ∈ ys) : ∃ x ∈ xs, R x y := by
  induction h with
  | nil => cases hy
  | cons hxy _ ih =>
    rcases List.mem_cons.1 hy with rfl | hy
    · exact ⟨_, List.mem_cons_self, hxy⟩
    · obtain ⟨x, hx, hR⟩ := ih hy
      exact ⟨x, List.mem_cons_of_mem _ hx, hR⟩

theorem getElem?_of_related {x : α} (h : List.Forall₂ R xs ys) {i : ℕ} (hx : xs[i]? = some x) :
    ∃ y, ys[i]? = some y ∧ R x y := by
  induction h generalizing i with
  | nil => simp at hx
  | cons hxy _ ih =>
    cases i with
    | zero =>
      obtain rfl := Option.some.inj hx
      exact ⟨_, rfl, hxy⟩
    | succ i => exact ih hx

theorem option_related_cases {x? : Option α} {y? : Option β} (h : Option.Rel R x? y?) :
    (x? = none ∧ y? = none) ∨ ∃ x y, x? = some x ∧ y? = some y ∧ R x y := by
  cases h with
  | some hxy => exact Or.inr ⟨_, _, rfl, rfl, hxy⟩
  | none => exact Or.inl ⟨rfl, rfl⟩

/-- Lists whose images agree are related by an image that they share. -/
theorem related_of_mapIdx_eq {f : ℕ → α → γ} {g : β → γ}
    (h : xs.mapIdx f = ys.map g) : List.Forall₂ (fun x y => ∃ i, f i x = g y) xs ys := by
  induction xs generalizing f ys with
  | nil =>
    obtain rfl := List.map_eq_nil_iff.1 h.symm
    exact .nil
  | cons x xs ih =>
    cases ys with
    | nil => simp at h
    | cons y ys =>
      rw [List.mapIdx_cons, List.map_cons, List.cons.injEq] at h
      refine .cons ⟨0, h.1⟩ ((ih h.2).imp ?_)
      rintro a b ⟨i, hi⟩
      exact ⟨i + 1, hi⟩

/-! ## What is equal -/

/-- A list that has the image of each element in its place is the image of the list. -/
theorem eq_map_of_getElem? {f : α → β} (hlen : ys.length = xs.length)
    (h : ∀ (i : ℕ) (x : α), xs[i]? = some x → ys[i]? = some (f x)) : ys = xs.map f := by
  apply List.ext_getElem?
  intro i
  rw [List.getElem?_map]
  cases hx : xs[i]? with
  | some x => exact h i x hx
  | none => exact List.getElem?_eq_none (hlen ▸ List.getElem?_eq_none_iff.1 hx)

theorem map_eq_of_related (h : List.Forall₂ R xs ys) {f : α → γ} {g : β → γ}
    (hfg : ∀ x y, R x y → f x = g y) : xs.map f = ys.map g := by
  rw [← List.forall₂_eq_eq_eq]
  exact List.rel_map hfg h

theorem any_eq_of_related (h : List.Forall₂ R xs ys) {p : α → Bool} {q : β → Bool}
    (hpq : ∀ x y, R x y → p x = q y) : xs.any p = ys.any q := by
  induction h with
  | nil => rfl
  | cons hxy _ ih => rw [List.any_cons, List.any_cons, hpq _ _ hxy, ih]

theorem forall_iff_of_related (h : List.Forall₂ R xs ys) {p : α → Prop} {q : β → Prop}
    (hpq : ∀ x y, R x y → (p x ↔ q y)) : (∀ x ∈ xs, p x) ↔ ∀ y ∈ ys, q y := by
  induction h with
  | nil => simp
  | cons hxy _ ih => rw [List.forall_mem_cons, List.forall_mem_cons, hpq _ _ hxy, ih]

theorem zipWith_eq_of_related {δ : Type} (h : List.Forall₂ R xs ys) {zs : List γ} {f : α → γ → δ}
    {g : β → γ → δ} (hfg : ∀ x y, R x y → ∀ z ∈ zs, f x z = g y z) :
    List.zipWith f xs zs = List.zipWith g ys zs := by
  induction h generalizing zs with
  | nil => rfl
  | cons hxy _ ih =>
    cases zs with
    | nil => rfl
    | cons z zs =>
      have hrest := ih fun x y hR w hw => hfg x y hR w (List.mem_cons_of_mem _ hw)
      rw [List.zipWith_cons_cons, List.zipWith_cons_cons, hfg _ _ hxy z List.mem_cons_self, hrest]

theorem option_map_eq_of_related {x? : Option α} {y? : Option β} (h : Option.Rel R x? y?)
    {f : α → γ} {g : β → γ} (hfg : ∀ x y, R x y → f x = g y) : x?.map f = y?.map g := by
  cases h with
  | some hxy => exact congrArg some (hfg _ _ hxy)
  | none => rfl

/-! ## What stays related -/

/-- Two functions of the same elements. -/
theorem zipWith_related {δ ε : Type} {S : δ → ε → Prop} {xs : List α} {ys : List β}
    {f : α → β → δ} {g : α → β → ε} (hfg : ∀ x ∈ xs, ∀ y, S (f x y) (g x y)) :
    List.Forall₂ S (List.zipWith f xs ys) (List.zipWith g xs ys) := by
  induction xs generalizing ys with
  | nil => exact List.Forall₂.nil
  | cons x xs ih =>
    cases ys with
    | nil => exact List.Forall₂.nil
    | cons y ys =>
      obtain ⟨hhead, htail⟩ := List.forall_mem_cons.1 hfg
      exact List.Forall₂.cons (hhead y) (ih htail)

theorem filter_related (h : List.Forall₂ R xs ys) {p : α → Bool} {q : β → Bool}
    (hpq : ∀ x y, R x y → p x = q y) : List.Forall₂ R (xs.filter p) (ys.filter q) :=
  List.rel_filter (fun x y hxy => by simp only [hpq x y hxy]) h

theorem find?_related (h : List.Forall₂ R xs ys) {p : α → Bool} {q : β → Bool}
    (hpq : ∀ x y, R x y → p x = q y) : Option.Rel R (xs.find? p) (ys.find? q) := by
  induction h with
  | nil => exact Option.Rel.none
  | cons hxy _ ih =>
    rw [List.find?_cons, List.find?_cons, hpq _ _ hxy]
    split
    · exact Option.Rel.some hxy
    · exact ih

theorem option_map_related {δ : Type} {S : γ → δ → Prop} {x? : Option α} {y? : Option β}
    (h : Option.Rel R x? y?) {f : α → γ} {g : β → δ} (hfg : ∀ x y, R x y → S (f x) (g y)) :
    Option.Rel S (x?.map f) (y?.map g) := by
  cases h with
  | some hxy => exact Option.Rel.some (hfg _ _ hxy)
  | none => exact Option.Rel.none

section Sorting

variable {key : α → ℤ} {key' : β → ℤ}

theorem insertBy_related (hkey : ∀ x y, R x y → key x = key' y) {x : α} {y : β} (hxy : R x y)
    (h : List.Forall₂ R xs ys) :
    List.Forall₂ R (insertBy (fun a b => intLe (key a) (key b)) x xs)
      (insertBy (fun a b => intLe (key' a) (key' b)) y ys) := by
  induction h with
  | nil => exact List.Forall₂.cons hxy List.Forall₂.nil
  | cons hhead htail ih =>
    simp only [insertBy, hkey _ _ hxy, hkey _ _ hhead]
    split
    · exact List.Forall₂.cons hxy (List.Forall₂.cons hhead htail)
    · exact List.Forall₂.cons hhead ih

theorem sortBy_related (hkey : ∀ x y, R x y → key x = key' y) (h : List.Forall₂ R xs ys) :
    List.Forall₂ R (sortBy (fun a b => intLe (key a) (key b)) xs)
      (sortBy (fun a b => intLe (key' a) (key' b)) ys) := by
  induction h with
  | nil => exact List.Forall₂.nil
  | cons hxy _ ih => exact insertBy_related hkey hxy ih

end Sorting

end Related

end Payables
