/-
# Goods receipts

What was received, and how much of it was posted against each line of the purchase order.
-/
import Payables.Decimal.Basic
import Payables.Calendar.Date

namespace Payables

/-- A line of a goods receipt document.  It need not be posted against a purchase order line. -/
structure GoodsReceipt where
  document : String
  lineNum : Int
  poLineNum : Option Int
  quantity : Decimal
  date : Date
  deriving DecidableEq, Repr

/-- Quantities by purchase order line, in ascending order of the line numbers. -/
abbrev Received := List (Int × Decimal)

namespace Received

/-- More of a quantity at a line. -/
def add (lineNum : Int) (quantity : Decimal) : Received → Received
  | [] => [(lineNum, Decimal.zero.add quantity)]
  | (n, q) :: r =>
    if lineNum < n then (lineNum, Decimal.zero.add quantity) :: (n, q) :: r
    else if lineNum = n then (n, q.add quantity) :: r
    else (n, q) :: add lineNum quantity r

/-- A receipt is counted at the line that it is posted against, if it is. -/
def post (done : Received) (r : GoodsReceipt) : Received :=
  match r.poLineNum with
  | some n => done.add n r.quantity
  | none => done

/-- The quantities of a list of receipts. -/
def ofReceipts (rs : List GoodsReceipt) : Received := rs.foldl post []

/-- The quantity at a line, if anything was posted against it. -/
def at? (received : Received) (lineNum : Int) : Option Decimal :=
  (received.find? fun e => e.1 == lineNum).map Prod.snd

/-- A receipt leaves the other lines as they are. -/
theorem at?_add_of_ne {n m : Int} (h : m ≠ n) (quantity : Decimal) (received : Received) :
    at? (add n quantity received) m = at? received m := by
  induction received with
  | nil => simp [add, at?, Ne.symm h]
  | cons e r ih =>
    obtain ⟨k, q⟩ := e
    simp only [add]
    split
    · simp [at?, Ne.symm h]
    · split
      · rename_i hk
        simp [at?, ← hk, Ne.symm h]
      · by_cases hm : k = m
        · simp [at?, hm]
        · simpa [at?, hm] using ih

end Received
end Payables
