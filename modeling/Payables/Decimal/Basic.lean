/-
# Decimals

A decimal is an integer coefficient together with a scale, the number of places its point stands
from the right.  `2.50` and `2.5` are different decimals of one value: the written scale is kept
through arithmetic and through printing, while every comparison is made on `Decimal.value`.
-/

namespace Payables

/-- The power `10 ^ n`. -/
def tenTo (n : Nat) : Nat := Nat.pow 10 n

/-- The number of digits of `n` in base ten; zero has one. -/
def digitCount (n : Nat) : Nat := (Nat.toDigits 10 n).length

/-- A decimal numeral: `coeff * 10 ^ (-scale)`. -/
structure Decimal where
  coeff : Int
  scale : Int
  deriving DecidableEq, Repr

namespace Decimal

/-- The exact rational number a decimal stands for. -/
def value (d : Decimal) : Rat := (d.coeff : Rat) * (10 : Rat) ^ (-d.scale)

/-- The integer `n`, written without a fraction. -/
def ofInt (n : Int) : Decimal := ⟨n, 0⟩

/-- Zero, written `0`. -/
def zero : Decimal := ofInt 0

/-! ## Comparison by value -/

/-- Equality of the numbers, whatever the scales. -/
def eqv (a b : Decimal) : Bool := decide (a.value = b.value)

/-- Strict order of the numbers. -/
def lt (a b : Decimal) : Bool := decide (a.value < b.value)

/-- The number is zero. -/
def isZero (a : Decimal) : Bool := decide (a.coeff = 0)

/-! ## Arithmetic -/

/-- The coefficient of `d` once it is written with `scale` places, for a scale not below its own.
Zero has one coefficient at every scale. -/
def coeffAt (d : Decimal) (scale : Int) : Int :=
  if d.coeff = 0 then 0 else d.coeff * (tenTo (scale - d.scale).toNat : Int)

/-- The sum, written with the larger of the two scales. -/
def add (a b : Decimal) : Decimal :=
  let s := max a.scale b.scale
  ⟨a.coeffAt s + b.coeffAt s, s⟩

/-- The difference, written with the larger of the two scales. -/
def sub (a b : Decimal) : Decimal :=
  let s := max a.scale b.scale
  ⟨a.coeffAt s - b.coeffAt s, s⟩

/-- The absolute value, at the same scale. -/
def abs (a : Decimal) : Decimal := ⟨a.coeff.natAbs, a.scale⟩

/-- Strip trailing zeros from a coefficient; at most `fuel` of them. -/
def stripZeros : Nat → Int → Int → Decimal
  | 0, c, s => ⟨c, s⟩
  | fuel + 1, c, s => if c % 10 = 0 then stripZeros fuel (c / 10) (s - 1) else ⟨c, s⟩

/-- The shortest way to write the number: no trailing zero in the coefficient, and zero as `0`. -/
def normalize (a : Decimal) : Decimal :=
  if a.coeff = 0 then zero else stripZeros (digitCount a.coeff.natAbs) a.coeff a.scale

/-- The product.  A factor that equals one leaves the other factor in its shortest form; otherwise
the scales add up. -/
def mul (a b : Decimal) : Decimal :=
  if a.eqv (ofInt 1) then b.normalize
  else if b.eqv (ofInt 1) then a.normalize
  else ⟨a.coeff * b.coeff, a.scale + b.scale⟩

/-- A hundred times the number, at its own scale; a hundredfold one is the plain numeral `100`. -/
def hundredfold (a : Decimal) : Decimal :=
  if a.eqv (ofInt 1) then ofInt 100 else ⟨a.coeff * 100, a.scale⟩

/-- Round to at most `places` places, a half going away from zero.  A decimal that has no more
places than that is left as it is written. -/
def round (a : Decimal) (places : Int) : Decimal :=
  if a.scale ≤ places then a
  else
    let unit : Nat := tenTo (a.scale - places).toNat
    let m := a.coeff.natAbs
    let q := m / unit + (if unit ≤ 2 * (m % unit) then 1 else 0)
    ⟨if a.coeff < 0 then -(q : Int) else q, places⟩

/-- The sum of a list, starting from `0`. -/
def sum (ds : List Decimal) : Decimal := ds.foldl add zero

end Decimal
end Payables
