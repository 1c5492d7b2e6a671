/-
# Values of settings

A setting may be written in more ways than one: a number as a text, a switch as `on`.  Here is
what each kind of setting accepts.
-/
import Payables.Json.Basic
import Payables.Binary64.Text
import Payables.Text.Case

namespace Payables.Settings

/-- The number that a switch stands for. -/
def switch? (s : String) : Option Nat :=
  let w := String.ofList (Text.lower s.toList)
  if w = "true" || w = "on" || w = "yes" then some 1
  else if w = "false" || w = "off" || w = "no" then some 0
  else none

/-- An integer in a range, ends included. -/
def within? (lo hi n : Int) : Option Int := if lo ≤ n && n ≤ hi then some n else none

/-- An integer from `lo` to `hi`; other numbers are rounded. -/
def intIn? (lo hi : Int) : Json → Option Int
  | .integer n => within? lo hi n
  | .bool b => some (if b then 1 else 0)
  | .real x => some (x.toIntIn lo hi)
  | .text s =>
    match switch? s with
    | some n => some n
    | none => (readInt? s.toList).bind (within? lo hi)
  | _ => none

/-- A signed integer of 64 bits. -/
def signed? : Json → Option Int := intIn? (-9223372036854775808) 9223372036854775807

/-- A count of 64 bits; a text must not carry a minus sign. -/
def count? : Json → Option Int
  | .text s => if s.toList.head? = some '-' then none else intIn? 0 18446744073709551615 (.text s)
  | j => intIn? 0 18446744073709551615 j

/-- A number. -/
def number? : Json → Option Binary64
  | .integer n => some (Binary64.ofInt n)
  | .bool b => some (Binary64.ofNat (if b then 1 else 0))
  | .real x => some x
  | .text s =>
    match switch? s with
    | some n => some (Binary64.ofNat n)
    | none => Binary64.readChars? s.toList
  | _ => none

/-- A text. -/
def text? : Json → Option String
  | .text s => some s
  | .bool b => some (if b then "true" else "false")
  | .integer n => some (intText n)
  | .real x => some x.plainText
  | _ => none

end Payables.Settings
