/-
# Binary64 numbers

Percentages are measured in binary64 arithmetic: every operation is carried out exactly on
rational numbers and its result is rounded once, to the nearest number with 53 binary digits and
an exponent of at least -1074, a tie going to the even neighbour.  A finite number is a sign and a
rational magnitude, so the two zeros stay apart while the rest is exact arithmetic.
-/

namespace Payables

/-- Not a number, a signed infinity, or a sign and a magnitude. -/
inductive Binary64 where
  | nan
  | infinite (negative : Bool)
  | finite (negative : Bool) (magnitude : Rat)
  deriving DecidableEq, Repr

namespace Binary64

/-! ## Rounding -/

/-- The exponent `k` with `2 ^ k ≤ q < 2 ^ (k + 1)`, for positive `q`. -/
def floorLog2 (q : Rat) : Int :=
  let k : Int := (Nat.log2 q.num.natAbs : Int) - (Nat.log2 q.den : Int)
  if (2 : Rat) ^ k ≤ q then k else k - 1

/-- The nearest integer, a tie going to the even one. -/
def roundTiesEven (q : Rat) : Int :=
  let f := q.floor
  let r := q - f
  if r < 1 / 2 then f
  else if 1 / 2 < r then f + 1
  else if f % 2 = 0 then f else f + 1

/-- The exponent of the last binary place that a magnitude keeps. -/
def lastPlace (q : Rat) : Int := Max.max (floorLog2 q - 52) (-1074)

/-- The magnitude rounded to its last binary place. -/
def roundMagnitude (q : Rat) : Rat :=
  let unit := (2 : Rat) ^ lastPlace q
  (roundTiesEven (q / unit) : Rat) * unit

/-- Magnitudes from here on round to infinity. -/
def overflowBound : Rat := (2 : Rat) ^ (1024 : Int)

/-- The number nearest to a sign and an exact magnitude. -/
def ofMagnitude (negative : Bool) (q : Rat) : Binary64 :=
  let r := roundMagnitude q
  if r < overflowBound then finite negative r else infinite negative

/-- The absolute value of a rational number. -/
def ratAbs (q : Rat) : Rat := if q < 0 then -q else q

/-- The number nearest to a rational number. -/
def ofRat (q : Rat) : Binary64 := ofMagnitude (decide (q < 0)) (ratAbs q)

/-- The number nearest to an integer. -/
def ofInt (n : Int) : Binary64 := ofRat (n : Rat)

/-- The number nearest to a natural number. -/
def ofNat (n : Nat) : Binary64 := ofInt (n : Int)

/-- Positive zero. -/
def zero : Binary64 := finite false 0

/-! ## Views -/

/-- The exact value of a finite number; zero for the others. -/
def value : Binary64 → Rat
  | finite s m => if s then -m else m
  | _ => 0

/-- Neither infinite nor NaN. -/
def isFinite : Binary64 → Bool
  | finite _ _ => true
  | _ => false

/-- Not a number. -/
def isNaN : Binary64 → Bool
  | nan => true
  | _ => false

/-- The number carries a minus sign; NaN does not. -/
def isNegative : Binary64 → Bool
  | nan => false
  | infinite s => s
  | finite s _ => s

/-! ## Comparison

NaN compares false with everything, and the two zeros are equal. -/

/-- Less than. -/
def lt : Binary64 → Binary64 → Bool
  | nan, _ => false
  | _, nan => false
  | infinite s, infinite t => s && !t
  | infinite s, finite _ _ => s
  | finite _ _, infinite t => !t
  | finite s a, finite t b => decide ((finite s a).value < (finite t b).value)

/-- Equal as numbers. -/
def eqv : Binary64 → Binary64 → Bool
  | nan, _ => false
  | _, nan => false
  | infinite s, infinite t => s == t
  | infinite _, finite _ _ => false
  | finite _ _, infinite _ => false
  | finite s a, finite t b => decide ((finite s a).value = (finite t b).value)

/-- Less than or equal. -/
def le (x y : Binary64) : Bool := x.lt y || x.eqv y

/-- The larger number; NaN gives way to the other operand. -/
def max (x y : Binary64) : Binary64 :=
  if x.isNaN then y else if x.lt y then y else x

/-! ## Arithmetic -/

/-- The absolute value. -/
def abs : Binary64 → Binary64
  | nan => nan
  | infinite _ => infinite false
  | finite _ m => finite false m

/-- The product. -/
def mul : Binary64 → Binary64 → Binary64
  | nan, _ => nan
  | _, nan => nan
  | infinite s, infinite t => infinite (s != t)
  | infinite s, finite t m => if m = 0 then nan else infinite (s != t)
  | finite s m, infinite t => if m = 0 then nan else infinite (s != t)
  | finite s a, finite t b => ofMagnitude (s != t) (a * b)

/-- The quotient. -/
def div : Binary64 → Binary64 → Binary64
  | nan, _ => nan
  | _, nan => nan
  | infinite _, infinite _ => nan
  | infinite s, finite t _ => infinite (s != t)
  | finite s _, infinite t => finite (s != t) 0
  | finite s a, finite t b =>
    if b = 0 then (if a = 0 then nan else infinite (s != t))
    else ofMagnitude (s != t) (a / b)

/-- The nearest integer, a half going away from zero; the sign is kept. -/
def round : Binary64 → Binary64
  | finite s m => finite s ((m + 1 / 2).floor : Rat)
  | x => x

/-- The number moved into the range from `lo` to `hi`; NaN stays. -/
def clamp (x lo hi : Binary64) : Binary64 :=
  if x.lt lo then lo else if hi.lt x then hi else x

/-- The byte nearest below in magnitude: fractions are cut, numbers out of range saturate, and NaN
is zero. -/
def toUInt8 : Binary64 → UInt8
  | nan => 0
  | infinite s => if s then 0 else 255
  | finite s m => if s then 0 else UInt8.ofNat (Min.min m.floor.toNat 255)

/-- The integer nearest to a number, moved into the range from `lo` to `hi`; NaN is zero. -/
def toIntIn (lo hi : Int) : Binary64 → Int
  | nan => 0
  | infinite s => if s then lo else hi
  | finite s m =>
    let n := (m + 1 / 2).floor
    Max.max lo (Min.min hi (if s then -n else n))

/-- A power by repeated squaring, one rounding per product: `fuel` bounds the binary digits of
the exponent. -/
def powLoop : Nat → Binary64 → Binary64 → Nat → Binary64
  | 0, r, _, _ => r
  | fuel + 1, r, a, b =>
    let r := if b % 2 = 1 then r.mul a else r
    if b / 2 = 0 then r else powLoop fuel r (a.mul a) (b / 2)

/-- Ten to the power `e`; a negative power is the reciprocal of the positive one. -/
def powTen (e : Int) : Binary64 :=
  let r := powLoop (Nat.log2 e.natAbs + 1) (ofNat 1) (ofNat 10) e.natAbs
  if e < 0 then (ofNat 1).div r else r

end Binary64
end Payables
