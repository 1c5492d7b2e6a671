/-
# Matching strategies

The ways an invoice line is matched to a purchase order line, from the strongest evidence to the
weakest.  Each has a weight, the confidence of a perfect match, a floor that a match must reach,
and a tolerance for the variance of a match that counts as clean.
-/
import Payables.Binary64.Basic

namespace Payables

/-- The strategies. -/
inductive Strategy where
  | keyBased
  | vendorMaterial
  | semantic
  | qtyPrice
  | grXref
  | elimination
  deriving DecidableEq, Repr

namespace Strategy

/-- The strategies that look at one line at a time, in order of priority. -/
def proposing : List Strategy := [keyBased, vendorMaterial, semantic, qtyPrice, grXref]

/-- Every strategy, in order of priority. -/
def all : List Strategy := proposing ++ [elimination]

/-- The written name. -/
def text : Strategy → String
  | keyBased => "key-based"
  | vendorMaterial => "vendor-material"
  | semantic => "semantic"
  | qtyPrice => "qty-price"
  | grXref => "gr-xref"
  | elimination => "elimination"

/-- The strategy of a written name. -/
def ofText? (s : String) : Option Strategy := all.find? fun x => x.text == s

@[simp] theorem ofText?_text (s : Strategy) : ofText? s.text = some s := by cases s <;> decide

/-- The place in the order of priority. -/
def position : Strategy → Nat
  | keyBased => 0
  | vendorMaterial => 1
  | semantic => 2
  | qtyPrice => 3
  | grXref => 4
  | elimination => 5

/-- The confidence of a perfect match. -/
def weight : Strategy → UInt8
  | keyBased => 100
  | vendorMaterial => 90
  | semantic => 75
  | qtyPrice => 70
  | grXref => 65
  | elimination => 40

/-- The least confidence that claims a line. -/
def floor : Strategy → UInt8
  | keyBased => 100
  | vendorMaterial => 80
  | semantic => 60
  | qtyPrice => 55
  | grXref => 50
  | elimination => 30

/-- The largest variance, in percent, of a clean match. -/
def tolerance : Strategy → Binary64
  | keyBased | vendorMaterial | grXref => Binary64.ofNat 5
  | semantic | qtyPrice => Binary64.ofNat 2
  | elimination => Binary64.ofNat 1

end Strategy
end Payables
