/-
# Similarity of descriptions

A description is compared as the set of its words.  Words are the maximal runs of letters and
numbers; short words and fillers do not count, and case does not matter.  The similarity of two
sets is the size of their intersection over the size of their union.
-/
import Payables.Order
import Payables.Binary64.Basic
import Payables.Text.Alphanumeric
import Payables.Text.Case

namespace Payables

/-- Words in strictly ascending order. -/
abbrev TokenSet := List String

namespace TokenSet

/-- Words that say nothing about an article. -/
def fillers : List String :=
  ["and", "for", "the", "of", "with", "per", "to", "in", "on", "by", "ea", "pcs", "unit", "units"]

/-- The runs of letters and numbers of a text; between two separators stands an empty run. -/
def runs : List Char → List (List Char)
  | [] => [[]]
  | c :: r =>
    match runs r with
    | w :: ws => if Text.isAlphanumeric c then (c :: w) :: ws else [] :: w :: ws
    | [] => [[]]

theorem runs_ne_nil (cs : List Char) : runs cs ≠ [] := by
  cases cs with
  | nil => simp [runs]
  | cons c r =>
    unfold runs
    split
    · split <;> simp
    · simp

/-- The runs on the two sides of a separator do not touch. -/
theorem runs_append_separator (a b : List Char) {c : Char} (h : Text.isAlphanumeric c = false) :
    runs (a ++ c :: b) = runs a ++ runs b := by
  induction a with
  | nil =>
    cases hb : runs b with
    | nil => exact absurd hb (runs_ne_nil b)
    | cons w ws => simp [runs, hb, h]
  | cons x a ih =>
    cases ha : runs a with
    | nil => exact absurd ha (runs_ne_nil a)
    | cons w ws =>
      rw [ha] at ih
      simp only [List.cons_append, runs, ih, ha]
      split <;> rfl

/-- The word of a run in lower case; a run of fewer than two characters and a filler are none. -/
def word? (run : List Char) : Option String :=
  if run.length < 2 then none
  else
    let w := String.ofList (Text.lower run)
    if fillers.contains w then none else some w

/-- The words of a text. -/
def ofText (s : String) : TokenSet := sortUnique textLt ((runs s.toList).filterMap word?)

/-- The number of words that two sets share. -/
def common (a b : TokenSet) : Nat := (a.filter fun t => b.contains t).length

/-- The number of words of either set. -/
def either (a b : TokenSet) : Nat := a.length + (b.filter fun t => !a.contains t).length

/-- The shared part of all words; two empty sets have nothing in common. -/
def similarity (a b : TokenSet) : Binary64 :=
  if either a b = 0 then Binary64.zero
  else (Binary64.ofNat (common a b)).div (Binary64.ofNat (either a b))

end TokenSet
end Payables
