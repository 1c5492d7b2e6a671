/-
# Sorted lists

Insertion into sorted lists, with and without repetition.  Sorting is stable: elements of one rank
stay in the order in which they came.
-/

namespace Payables

/-- Put an element in front of the first one that it may precede. -/
def insertBy (le : α → α → Bool) (x : α) : List α → List α
  | [] => [x]
  | y :: r => if le x y then x :: y :: r else y :: insertBy le x r

/-- Sort a list. -/
def sortBy (le : α → α → Bool) : List α → List α
  | [] => []
  | x :: r => insertBy le x (sortBy le r)

/-- Put an element into a strictly ascending list unless it is there already. -/
def insertUnique (lt : α → α → Bool) (x : α) : List α → List α
  | [] => [x]
  | y :: r => if lt x y then x :: y :: r else if lt y x then y :: insertUnique lt x r else y :: r

/-- The elements of a list in strictly ascending order. -/
def sortUnique (lt : α → α → Bool) (xs : List α) : List α :=
  xs.foldl (fun done x => insertUnique lt x done) []

/-- Two integers may stand in this order. -/
def intLe (a b : Int) : Bool := decide (a ≤ b)

/-- Two texts may stand in this order, compared code point by code point. -/
def textLe (a b : String) : Bool := decide (a ≤ b)

/-- A text stands before another, compared code point by code point. -/
def textLt (a b : String) : Bool := decide (a < b)

/-- Where only equal elements are incomparable, an insertion adds its element and no other. -/
theorem mem_insertUnique {lt : α → α → Bool} {x y : α} {l : List α}
    (tri : ∀ a b, lt a b = false → lt b a = false → a = b) :
    y ∈ insertUnique lt x l ↔ y = x ∨ y ∈ l := by
  induction l with
  | nil => simp [insertUnique]
  | cons z r ih =>
    simp only [insertUnique]
    split
    · simp
    · split
      · simp only [List.mem_cons, ih]
        constructor
        · rintro (h | h | h) <;> simp [h]
        · rintro (h | h | h) <;> simp [h]
      · have hxz : x = z := tri x z (by simp_all) (by simp_all)
        simp [hxz]

end Payables
