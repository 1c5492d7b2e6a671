/-
# Exchange form of plain values

How numbers, texts, dates and names stand in an exchange value.  Reading refuses a value of
another kind and a number out of range; a field that is missing counts as null.
-/
import Payables.Json.Basic
import Payables.Binary64.Text
import Payables.Calendar.Instant

namespace Payables.Wire

/-! ## Reading -/

/-- A text. -/
def text? : Json → Option String
  | .text s => some s
  | _ => none

/-- A truth value. -/
def bool? : Json → Option Bool
  | .bool b => some b
  | _ => none

/-- An integer in a range, ends included. -/
def intIn? (lo hi : Int) : Json → Option Int
  | .integer n => if lo ≤ n && n ≤ hi then some n else none
  | _ => none

/-- A 32-bit integer. -/
def int32? : Json → Option Int := intIn? (-2147483648) 2147483647

/-- A 64-bit integer. -/
def int64? : Json → Option Int := intIn? (-9223372036854775808) 9223372036854775807

/-- A byte. -/
def byte? (j : Json) : Option UInt8 := (intIn? 0 255 j).map fun n => UInt8.ofNat n.toNat

/-- A count. -/
def count? (j : Json) : Option Nat := (intIn? 0 18446744073709551615 j).map Int.toNat

/-- A number; an integer will do. -/
def number? : Json → Option Binary64
  | .integer n => some (Binary64.ofInt n)
  | .real x => some x
  | _ => none

/-- A percentage: a number, or the name of one that is not finite. -/
def percent? : Json → Option Binary64
  | .text "NaN" => some .nan
  | .text "inf" => some (.infinite false)
  | .text "-inf" => some (.infinite true)
  | j => number? j

/-- A decimal: its text, an integer, or a number taken to sixteen significant digits. -/
def decimal? : Json → Option Decimal
  | .text s => Decimal.read? s
  | .integer n => some (Decimal.ofInt n)
  | .real (.finite s m) => some (Binary64.toDecimal16 s m)
  | _ => none

/-- A date. -/
def date? (j : Json) : Option Date := (text? j).bind Date.read?

/-- An instant. -/
def instant? (j : Json) : Option Instant := (text? j).bind Instant.read?

/-- A name that `ofText?` knows.  It may stand alone or as the only field of an object, with
null in it. -/
def name? (ofText? : String → Option α) : Json → Option α
  | .text s => ofText? s
  | .object [(s, .null)] => ofText? s
  | _ => none

/-- A value or null. -/
def optional? (read? : Json → Option α) : Json → Option (Option α)
  | .null => some none
  | j => (read? j).map some

/-- Values that are all read. -/
def items? (read? : Json → Option α) : List Json → Option (List α)
  | [] => some []
  | j :: rest => do
    let x ← read? j
    let xs ← items? read? rest
    some (x :: xs)

/-- An array. -/
def list? (read? : Json → Option α) : Json → Option (List α)
  | .array js => items? read? js
  | _ => none

/-- An object. -/
def object? : Json → Option Json
  | .object fields => some (.object fields)
  | _ => none

/-- A record: an object, or the values of its fields in their order.  Only the fields in `more` may
be left out at the end of such a list. -/
def record? (required : List String) (more : List String) : Json → Option Json
  | .object fields => some (.object fields)
  | .array values =>
    if required.length ≤ values.length && values.length ≤ required.length + more.length then
      some (.object ((required ++ more).zip values))
    else none
  | _ => none

/-- A field of an object. -/
def field? (j : Json) (key : String) (read? : Json → Option α) : Option α :=
  read? (j.fieldOrNull key)

/-- A field that may be missing, though not null. -/
def fieldOr? (j : Json) (key : String) (missing : α) (read? : Json → Option α) : Option α :=
  match j.field? key with
  | none => some missing
  | some v => read? v

/-! ## Writing -/

/-- A value or null. -/
def optional (write : α → Json) : Option α → Json
  | some x => write x
  | none => .null

/-- A list. -/
def list (write : α → Json) (xs : List α) : Json := .array (xs.map write)

/-- A byte. -/
def byte (b : UInt8) : Json := .integer b.toNat

/-- A count. -/
def count (n : Nat) : Json := .integer n

/-- A percentage, by name where it is not finite. -/
def percent (x : Binary64) : Json := if x.isFinite then .real x else .text x.plainText

/-- A decimal, as its text. -/
def decimal (d : Decimal) : Json := .text d.text

/-- A date, as its text. -/
def date (d : Date) : Json := .text d.text

/-- An instant, as its text. -/
def instant (t : Instant) : Json := .text t.text

end Payables.Wire
