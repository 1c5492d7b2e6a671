/-
# Decimal numerals as text

Reading accepts an optional sign, digits with at most one point among them, underscores between
the digits, and an optional exponent.  Printing writes all the digits out and never an exponent,
so the scale of the number stays visible: `2.50` keeps its last zero.
-/
import Payables.Decimal.Basic

namespace Payables

/-- An ASCII digit. -/
def isDigit (c : Char) : Bool := '0' ≤ c && c ≤ '9'

/-- The number that a digit stands for. -/
def digitValue (c : Char) : Nat := c.toNat - '0'.toNat

/-- The number that a row of digits stands for. -/
def natOfDigits (cs : List Char) : Nat := cs.foldl (fun n c => 10 * n + digitValue c) 0

/-- The digits of a natural number in base ten. -/
def natDigits (n : Nat) : List Char := Nat.toDigits 10 n

/-- A natural number in base ten. -/
def natText (n : Nat) : String := String.ofList (natDigits n)

/-- An integer in base ten. -/
def intText (n : Int) : String :=
  String.ofList (if n < 0 then '-' :: natDigits n.natAbs else natDigits n.natAbs)

/-- A non-empty row of ASCII digits. -/
def readNat? (cs : List Char) : Option Nat :=
  if cs.isEmpty || !cs.all isDigit then none else some (natOfDigits cs)

/-- Digits behind at most one sign. -/
def readInt? : List Char → Option Int
  | '-' :: r => (readNat? r).map fun n => -(n : Int)
  | '+' :: r => (readNat? r).map Int.ofNat
  | r => (readNat? r).map Int.ofNat

namespace Decimal

/-! ## Reading -/

/-- Digits of a coefficient: a digit first, then digits and underscores. -/
def readCoeffDigits? (cs : List Char) : Option Nat :=
  match cs with
  | [] => none
  | '_' :: _ => none
  | _ => if cs.all (fun c => isDigit c || c == '_') then
      some (natOfDigits (cs.filter isDigit)) else none

/-- A coefficient: digits behind at most one sign. -/
def readCoeff? : List Char → Option Int
  | '-' :: r => (readCoeffDigits? r).map fun n => -(n : Int)
  | '+' :: r => (readCoeffDigits? r).map Int.ofNat
  | r => (readCoeffDigits? r).map Int.ofNat

/-- An exponent: a 64-bit integer, behind one more optional plus sign. -/
def readExponent? (cs : List Char) : Option Int :=
  let body := match cs with
    | '+' :: r => r
    | r => r
  (readInt? body).filter fun n => -9223372036854775808 ≤ n && n ≤ 9223372036854775807

/-- Marks the start of an exponent. -/
def isExponentMark (c : Char) : Bool := c == 'e' || c == 'E'

/-- Read a decimal numeral: lead, fraction and exponent.  The scale counts the characters of the
fraction, less the exponent. -/
def readChars? (cs : List Char) : Option Decimal := do
  let mantissa := cs.takeWhile fun c => !isExponentMark c
  let exponent ← match cs.dropWhile fun c => !isExponentMark c with
    | [] => some 0
    | _ :: r => readExponent? r
  let lead := mantissa.takeWhile (· != '.')
  let fraction := (mantissa.dropWhile (· != '.')).drop 1
  let coeff ← readCoeff? (lead ++ fraction)
  some ⟨coeff, fraction.length - exponent⟩

/-- Read a decimal numeral. -/
def read? (s : String) : Option Decimal := readChars? s.toList

/-! ## Printing -/

/-- The digits of a magnitude with the point placed `scale` digits from the right.  A negative
scale appends that many zeros. -/
def layout (digits : List Char) (scale : Int) : List Char :=
  if scale ≤ 0 then digits ++ List.replicate (-scale).toNat '0'
  else
    let places := scale.toNat
    let padded := List.replicate (places + 1 - digits.length) '0' ++ digits
    let lead := padded.length - places
    padded.take lead ++ '.' :: padded.drop lead

/-- The characters of a decimal: sign, digits, point. -/
def toChars (d : Decimal) : List Char :=
  let body := layout (natDigits d.coeff.natAbs) d.scale
  if d.coeff < 0 then '-' :: body else body

/-- The text of a decimal. -/
def text (d : Decimal) : String := String.ofList d.toChars

end Decimal
end Payables
