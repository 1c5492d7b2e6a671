import Mathlib
import Payables.Decimal.Text

/-!
# Numbers in base ten

What is written in base ten is read back: `readNat?_natDigits` and `readInt?_intText`.
-/

namespace Payables

theorem isDigit_of_mem_natDigits {n : ℕ} {c : Char} (h : c ∈ natDigits n) : isDigit c = true := by
  have hdigit := Nat.isDigit_of_mem_toDigits (by norm_num) (by norm_num) h
  simpa [isDigit, Char.isDigit, Char.le_def] using hdigit

theorem readNat?_natDigits (n : ℕ) : readNat? (natDigits n) = some n := by
  have hall : (natDigits n).all isDigit = true :=
    List.all_eq_true.2 fun c hc => isDigit_of_mem_natDigits hc
  have hne : (natDigits n).isEmpty = false := List.isEmpty_eq_false_iff.2 Nat.toDigits_ne_nil
  have hvalue : natOfDigits (natDigits n) = n :=
    Nat.ofDigitChars_toDigits (b := 10) (by norm_num) (by norm_num)
  simp [readNat?, hall, hne, hvalue]

/-- Digits in front are no sign. -/
theorem readInt?_natDigits (n : ℕ) : readInt? (natDigits n) = some (n : ℤ) := by
  have hsign (c : Char) (r : List Char) (h : natDigits n = c :: r) : isDigit c = true :=
    isDigit_of_mem_natDigits (n := n) (by simp [h])
  unfold readInt?
  split
  · rename_i r h
    exact absurd (hsign '-' r h) (by decide)
  · rename_i r h
    exact absurd (hsign '+' r h) (by decide)
  · rw [readNat?_natDigits]
    rfl

theorem readInt?_intText (n : ℤ) : readInt? (intText n).toList = some n := by
  rw [intText, String.toList_ofList]
  by_cases hneg : n < 0
  · have hvalue : -(n.natAbs : ℤ) = n := by omega
    rw [if_pos hneg, readInt?, readNat?_natDigits]
    exact congrArg some hvalue
  · have hvalue : (n.natAbs : ℤ) = n := by omega
    rw [if_neg hneg, readInt?_natDigits, hvalue]

end Payables
