/-
# The autopilot threshold

The confidence from which a line may be posted without review: a percentage from 50 to 100.
-/
import Payables.Error

namespace Payables

/-- A confidence from 50 to 100. -/
structure Threshold where
  percent : Nat
  lower : 50 ≤ percent := by decide
  upper : percent ≤ 100 := by decide
  deriving DecidableEq, Repr

namespace Threshold

/-- The usual threshold. -/
def default : Threshold := ⟨95, by decide, by decide⟩

/-- The threshold of a requested percentage, if it is in range. -/
def ofInt? (v : Int) : Option Threshold :=
  if h : 50 ≤ v ∧ v ≤ 100 then
    some ⟨v.toNat, by omega, by omega⟩
  else none

theorem ofInt?_isSome {v : Int} : (ofInt? v).isSome ↔ 50 ≤ v ∧ v ≤ 100 := by
  unfold ofInt?
  split <;> simp_all

/-- The threshold of a requested percentage; one out of range is refused. -/
def request (v : Int) : Except EvaluationError Threshold :=
  match ofInt? v with
  | some t => .ok t
  | none => .error (.thresholdOutOfRange v)

/-- The percentage as a byte. -/
def toUInt8 (t : Threshold) : UInt8 := UInt8.ofNat t.percent

/-- The text of the percentage. -/
def text (t : Threshold) : String := natText t.percent

end Threshold
end Payables
