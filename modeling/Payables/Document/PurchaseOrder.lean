/-
# Purchase orders

What was ordered from a vendor, line by line.
-/
import Payables.Decimal.Text
import Payables.Calendar.Date

namespace Payables

/-- An ordered line. -/
structure PurchaseOrderLine where
  poNumber : String
  lineNum : Int
  description : String
  quantity : Decimal
  unitPrice : Decimal
  materialCode : Option String
  costCenter : Option String
  deriving DecidableEq, Repr

/-- The header of a purchase order. -/
structure PurchaseOrderHeader where
  poNumber : String
  vendorId : String
  created : Date
  deriving DecidableEq, Repr

/-- A purchase order: a header with its lines. -/
structure PurchaseOrder extends PurchaseOrderHeader where
  lines : List PurchaseOrderLine
  deriving DecidableEq, Repr

/-- The name of a line of a purchase order. -/
structure PoLineRef where
  poNumber : String
  lineNum : Int
  deriving DecidableEq, Repr

/-- The text of a line's name: `4500012345/10`. -/
def PoLineRef.text (r : PoLineRef) : String := r.poNumber ++ "/" ++ intText r.lineNum

namespace PurchaseOrder

/-- The first line of a number. -/
def line? (po : PurchaseOrder) (lineNum : Int) : Option PurchaseOrderLine :=
  po.lines.find? fun l => l.lineNum == lineNum

/-- The name of the line of a number. -/
def lineRef (po : PurchaseOrder) (lineNum : Int) : PoLineRef := ⟨po.poNumber, lineNum⟩

end PurchaseOrder
end Payables
