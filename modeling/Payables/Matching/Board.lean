/-
# The claim board

The lines of a purchase order while invoice lines claim them.  A line is claimed at most once: a
strategy looks only at the lines that are still free.
-/
import Payables.Document.Snapshot
import Payables.Matching.Similarity
import Payables.Matching.Variance
import Payables.Text.Blank

namespace Payables

/-- The purchase order line that an invoice line is given, and how. -/
structure Assignment where
  poLine : Int
  strategy : Strategy
  rawConfidence : UInt8
  deriving DecidableEq, Repr

/-- A purchase order line on the board, with the words of its description. -/
structure BoardEntry where
  line : PurchaseOrderLine
  tokens : TokenSet
  deriving DecidableEq, Repr

/-- A purchase order line taken by an invoice line. -/
structure BoardClaim where
  lineNum : Int
  assignment : Assignment
  deriving DecidableEq, Repr

/-- The lines in ascending order, the receipts that back them, and the claims so far, the latest
first. -/
structure Board where
  entries : List BoardEntry
  receipts : List GoodsReceipt
  claims : List BoardClaim
  deriving DecidableEq, Repr

/-- A line that a strategy would claim. -/
structure Candidate where
  poLine : Int
  rawConfidence : UInt8
  deriving DecidableEq, Repr

namespace Board

/-- The board of a purchase order, nothing claimed. -/
def ofOrder (po : PurchaseOrder) (receipts : List GoodsReceipt) : Board where
  entries := sortBy (fun a b => intLe a.line.lineNum b.line.lineNum)
    (po.lines.map fun l => ⟨l, TokenSet.ofText l.description⟩)
  receipts := receipts
  claims := []

/-! ## Views -/

/-- A purchase order line is taken. -/
def isClaimed (b : Board) (poLine : Int) : Bool :=
  b.claims.any fun c => c.assignment.poLine == poLine

/-- The lines that are still free, in ascending order. -/
def free (b : Board) : List BoardEntry := b.entries.filter fun e => !b.isClaimed e.line.lineNum

/-- The purchase order has a line of this number. -/
def hasLine (b : Board) (poLine : Int) : Bool := b.entries.any fun e => e.line.lineNum == poLine

/-- What an invoice line has been given. -/
def assignment? (b : Board) (lineNum : Int) : Option Assignment :=
  (b.claims.find? fun c => c.lineNum == lineNum).map BoardClaim.assignment

/-- An invoice line has been given something. -/
def isAssigned (b : Board) (lineNum : Int) : Bool := (b.assignment? lineNum).isSome

/-- Give a purchase order line to an invoice line. -/
def claim (b : Board) (lineNum : Int) (a : Assignment) : Board :=
  { b with claims := ⟨lineNum, a⟩ :: b.claims }

@[simp] theorem entries_claim (b : Board) (n : Int) (a : Assignment) :
    (b.claim n a).entries = b.entries := rfl

@[simp] theorem receipts_claim (b : Board) (n : Int) (a : Assignment) :
    (b.claim n a).receipts = b.receipts := rfl

/-- A claim takes its own purchase order line and no other. -/
theorem isClaimed_claim (b : Board) (n : Int) (a : Assignment) (p : Int) :
    (b.claim n a).isClaimed p = (a.poLine == p || b.isClaimed p) := rfl

/-- A claim gives to its own invoice line and to no other. -/
theorem assignment?_claim (b : Board) (n : Int) (a : Assignment) (m : Int) :
    (b.claim n a).assignment? m = if n = m then some a else b.assignment? m := by
  by_cases h : n = m <;> simp [assignment?, claim, h]

/-! ## What each strategy looks for -/

/-- A material code as it is compared: without blanks around it and in upper case.  A blank code is
none. -/
def materialKey? (code : String) : Option String :=
  let cs := Text.trim code.toList
  if cs.isEmpty then none else some (String.ofList (Text.upper cs))

/-- The first free line of the best score: a later line wins only if it is strictly `better`. -/
def best (better : Binary64 → Binary64 → Bool) (score : BoardEntry → Option Binary64)
    (es : List BoardEntry) : Option (Int × Binary64) :=
  es.foldl (fun found e =>
    match score e, found with
    | none, _ => found
    | some x, none => some (e.line.lineNum, x)
    | some x, some (_, y) => if better x y then some (e.line.lineNum, x) else found) none

/-- The line that the invoice line names. -/
def proposeKey (b : Board) (l : InvoiceLine) : Option Candidate :=
  match l.poLineRef with
  | none => none
  | some n =>
    (b.free.find? fun e => e.line.lineNum == n).map fun e =>
      ⟨e.line.lineNum, Strategy.keyBased.weight⟩

/-- The first free line of the same material. -/
def proposeMaterial (b : Board) (l : InvoiceLine) : Option Candidate :=
  match l.materialCode.bind materialKey? with
  | none => none
  | some key =>
    (b.free.find? fun e => e.line.materialCode.bind materialKey? == some key).map fun e =>
      ⟨e.line.lineNum, Strategy.vendorMaterial.weight⟩

/-- The similarity of two descriptions, if they share a word. -/
def similarityTo (tokens : TokenSet) (e : BoardEntry) : Option Binary64 :=
  let s := tokens.similarity e.tokens
  if s.le Binary64.zero then none else some s

/-- The confidence of a similarity: its share of the weight, rounded. -/
def semanticConfidence (s : Binary64) : UInt8 :=
  let weight := Binary64.ofNat Strategy.semantic.weight.toNat
  ((weight.mul s).round.clamp Binary64.zero weight).toUInt8

/-- The free line of the most similar description. -/
def proposeSemantic (b : Board) (l : InvoiceLine) : Option Candidate :=
  let tokens := TokenSet.ofText l.description
  (best (fun x y => y.lt x) (similarityTo tokens) b.free).map fun (n, s) =>
    ⟨n, semanticConfidence s⟩

/-- The larger of the deviations in quantity and in price, if neither is beyond the tolerance. -/
def deviationTo (l : InvoiceLine) (e : BoardEntry) : Option Binary64 :=
  let quantity := (percentChange l.quantity e.line.quantity).abs
  let price := (percentChange l.unitPrice e.line.unitPrice).abs
  let tolerance := Strategy.qtyPrice.tolerance
  if tolerance.lt quantity || tolerance.lt price then none else some (quantity.max price)

/-- What a deviation takes from the confidence for each percent. -/
def deviationRate : Binary64 := Binary64.ofRat (15 / 2)

/-- The confidence of a deviation. -/
def deviationConfidence (d : Binary64) : UInt8 :=
  let penalty := ((d.mul deviationRate).round.clamp Binary64.zero (Binary64.ofNat 255)).toUInt8
  Variance.less Strategy.qtyPrice.weight penalty

/-- The free line that deviates least. -/
def proposeQtyPrice (b : Board) (l : InvoiceLine) : Option Candidate :=
  (best (fun x y => x.lt y) (deviationTo l) b.free).map fun (n, d) => ⟨n, deviationConfidence d⟩

/-- The first free line that the receipt document of the invoice line was posted against.  The
confidence is full where the received quantity is the invoiced one. -/
def proposeReceipt (b : Board) (l : InvoiceLine) : Option Candidate :=
  match l.receiptRef with
  | none => none
  | some document =>
    let received := Received.ofReceipts (b.receipts.filter fun r => r.document == document)
    (received.find? fun r => b.free.any fun e => e.line.lineNum == r.1).map fun (n, quantity) =>
      ⟨n, if quantity.eqv l.quantity then Strategy.grXref.weight else Strategy.grXref.floor⟩

/-- The best candidate of a strategy for an invoice line.  Elimination proposes nothing: it needs
all lines at once. -/
def propose (b : Board) (s : Strategy) (l : InvoiceLine) : Option Candidate :=
  match s with
  | .keyBased => b.proposeKey l
  | .vendorMaterial => b.proposeMaterial l
  | .semantic => b.proposeSemantic l
  | .qtyPrice => b.proposeQtyPrice l
  | .grXref => b.proposeReceipt l
  | .elimination => none

/-! ## Rounds -/

/-- A strategy's turn at one invoice line: an open line claims the candidate that reaches the
floor. -/
def turn (s : Strategy) (b : Board) (l : InvoiceLine) : Board :=
  if b.isAssigned l.lineNum then b
  else
    match b.propose s l with
    | none => b
    | some c =>
      if c.rawConfidence < s.floor then b
      else b.claim l.lineNum ⟨c.poLine, s, c.rawConfidence⟩

/-- A strategy's turn at every invoice line. -/
def round (ls : List InvoiceLine) (b : Board) (s : Strategy) : Board := ls.foldl (turn s) b

/-- Where exactly one invoice line is open and one purchase order line is free, pair them. -/
def eliminate (ls : List InvoiceLine) (b : Board) : Board :=
  match ls.filter fun l => !b.isAssigned l.lineNum, b.free with
  | [l], [e] =>
    b.claim l.lineNum ⟨e.line.lineNum, .elimination, Strategy.elimination.weight⟩
  | _, _ => b

/-- All rounds over the invoice lines in ascending order, then elimination. -/
def play (ls : List InvoiceLine) (b : Board) : Board :=
  let ordered := sortBy (fun a b => intLe a.lineNum b.lineNum) ls
  eliminate ordered (Strategy.proposing.foldl (round ordered) b)

end Board
end Payables
