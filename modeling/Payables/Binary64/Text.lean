/-
# Binary64 numbers as text

The digits of a number are the fewest that read back as that number, and of those the nearest.
Three layouts write them: positional, positional with exponents at the far ends, and a fixed
number of places, which is rounded exactly with ties to even.
-/
import Payables.Binary64.Basic
import Payables.Decimal.Text

namespace Payables.Binary64

/-! ## Shortest digits -/

/-- The exponent `k` with `10 ^ k ≤ q < 10 ^ (k + 1)`, for positive `q`. -/
def floorLog10 (q : Rat) : Int :=
  let k : Int := (digitCount q.num.natAbs : Int) - (digitCount q.den : Int)
  if (10 : Rat) ^ k ≤ q then k else k - 1

/-- A magnitude reads back as `q`. -/
def readsBack (q c : Rat) : Bool := decide (roundMagnitude c = q)

/-- The decimal on the grid of `digits` significant digits that reads back as `q`, if there is one:
of the two neighbours of `q` on the grid the nearer that does. -/
def onGrid? (q : Rat) (digits : Nat) : Option Decimal :=
  let scale : Int := (digits : Int) - 1 - floorLog10 q
  let unit := (10 : Rat) ^ (-scale)
  let lo := (q / unit).floor
  let hi := lo + 1
  let below := readsBack q (lo * unit)
  let above := readsBack q (hi * unit)
  if below && (!above || decide (q - lo * unit < hi * unit - q)) then some ⟨lo, scale⟩
  else if above then some ⟨hi, scale⟩
  else none

/-- The first grid, from `digits` significant digits up, with a decimal that reads back. -/
def firstGrid (q : Rat) : Nat → Nat → Decimal
  | 0, digits => (onGrid? q digits).getD .zero
  | fuel + 1, digits =>
    match onGrid? q digits with
    | some d => d
    | none => firstGrid q fuel (digits + 1)

/-- The shortest decimal that reads back as a magnitude.  Seventeen digits always suffice. -/
def shortest (q : Rat) : Decimal :=
  if q = 0 then .zero else (firstGrid q 16 1).normalize

/-! ## Layouts -/

/-- Text in front of which a minus sign stands where the number is negative. -/
def signed (negative : Bool) (body : List Char) : String :=
  String.ofList (if negative then '-' :: body else body)

/-- The names of the numbers that are not finite. -/
def nonFiniteText : Binary64 → String
  | infinite true => "-inf"
  | infinite false => "inf"
  | _ => "NaN"

/-- All digits written out, never an exponent: `6`, `-5.01`, `1000000000000000000000`. -/
def plainText : Binary64 → String
  | finite s m => signed s (shortest m).toChars
  | x => nonFiniteText x

/-- Digits with the point placed, `.0` behind an integer, and an exponent where more than sixteen
places stand before the point or more than four zeros behind it. -/
def exchangeChars (d : Decimal) : List Char :=
  let digits := natDigits d.coeff.natAbs
  let point : Int := digits.length - d.scale
  if d.coeff = 0 then ['0', '.', '0']
  else if 0 ≤ -d.scale ∧ point ≤ 16 then d.toChars ++ ['.', '0']
  else if -5 < point ∧ point ≤ 16 then d.toChars
  else
    let fraction := digits.drop 1
    digits.take 1 ++ (if fraction.isEmpty then [] else '.' :: fraction)
      ++ 'e' :: (intText (point - 1)).toList

/-- The text of a finite number for data exchange: `3.0`, `-66.67`, `1e16`. -/
def exchangeText : Binary64 → String
  | finite s m => signed s (exchangeChars (shortest m))
  | x => nonFiniteText x

/-- A fixed number of places, the exact value rounded with ties to even: `0.12`, `-0.00`. -/
def fixedText (places : Nat) : Binary64 → String
  | finite s m =>
    signed s (Decimal.toChars ⟨roundTiesEven (m * (tenTo places : Rat)), places⟩)
  | x => nonFiniteText x

/-! ## Decimals and binary64 numbers -/

/-- A finite number as a decimal of sixteen significant digits; the exact value is rounded with
ties to even. -/
def toDecimal16 (negative : Bool) (m : Rat) : Decimal :=
  if m = 0 then ⟨0, 15⟩
  else
    let k := floorLog10 m
    let c := roundTiesEven (m / (10 : Rat) ^ (k - 15))
    let d : Decimal := if c = (tenTo 16 : Int) then ⟨tenTo 15, 15 - (k + 1)⟩ else ⟨c, 15 - k⟩
    if negative then ⟨-d.coeff, d.scale⟩ else d

/-- The number nearest to a sign and a magnitude of `coeff * 10 ^ (-scale)`.  Far beyond the range
the power is not computed. -/
def ofNumeral (negative : Bool) (coeff : Nat) (scale : Int) : Binary64 :=
  let point : Int := (digitCount coeff : Int) - scale
  if coeff = 0 then finite negative 0
  else if 310 < point then infinite negative
  else if point < -330 then finite negative 0
  else ofMagnitude negative (Decimal.value ⟨coeff, scale⟩)

/-! ## Reading -/

/-- The sign in front of a numeral, and the rest. -/
def splitSign : List Char → Bool × List Char
  | '-' :: r => (true, r)
  | '+' :: r => (false, r)
  | r => (false, r)

/-- The exponent behind a mantissa; none is zero. -/
def readExponent? : List Char → Option Int
  | [] => some 0
  | _ :: r =>
    let (negative, ds) := splitSign r
    (readNat? ds).map fun n => if negative then -(n : Int) else n

/-- Read a numeral: digits with at most one point among them, an exponent, or the name of a number
that is not finite. -/
def readChars? (cs : List Char) : Option Binary64 :=
  let (negative, body) := splitSign cs
  let word := body.map Char.toLower
  if word = "inf".toList || word = "infinity".toList then some (infinite negative)
  else if word = "nan".toList then some nan
  else
    let mantissa := body.takeWhile fun c => !Decimal.isExponentMark c
    let lead := mantissa.takeWhile (· != '.')
    let fraction := (mantissa.dropWhile (· != '.')).drop 1
    match readNat? (lead ++ fraction),
      readExponent? (body.dropWhile fun c => !Decimal.isExponentMark c) with
    | some n, some e => some (ofNumeral negative n (fraction.length - e))
    | _, _ => none

end Payables.Binary64

namespace Payables.Decimal

/-- An integer as 32 bits hold it. -/
def wrap32 (n : Int) : Int := n.bmod 4294967296

/-- The decimal in binary64 arithmetic: the coefficient is rounded, then multiplied by the power of
ten of the scale, which is itself computed in binary64 arithmetic.  The exponent of the power has
32 bits. -/
def toBinary64 (d : Decimal) : Binary64 :=
  (Binary64.ofInt d.coeff).mul (Binary64.powTen (wrap32 (-d.scale)))

end Payables.Decimal
