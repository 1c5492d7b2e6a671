/-
# Instants

A point in time, kept in universal time to the nanosecond.  The written form is
`2024-03-15T10:00:00.500Z`, with 0, 3, 6 or 9 digits of fraction, the fewest that are exact;
reading takes any offset from universal time and removes it.
-/
import Payables.Calendar.Date

namespace Payables

/-- A day of universal time, the second of that day and the nanosecond.  In a leap second the
nanoseconds go on past the full second. -/
structure Instant where
  date : Date
  second : Nat
  nano : Nat
  deriving DecidableEq, Repr

namespace Instant

/-- Seconds of a day. -/
def daySeconds : Nat := 86400

/-- Nanoseconds of a second. -/
def nanosPerSecond : Nat := 1000000000

/-! ## Reading -/

/-- A fraction behind a point: the digits after the ninth are dropped. -/
def fraction? (cs : List Char) : Option (Nat × List Char) :=
  match cs with
  | '.' :: r =>
    let ds := r.takeWhile isDigit
    let kept := ds.take 9
    if ds.isEmpty then none
    else some (natOfDigits kept * tenTo (9 - kept.length), r.dropWhile isDigit)
  | _ => some (0, cs)

/-- Two digits in front of the rest. -/
def twoDigits? : List Char → Option (Nat × List Char)
  | a :: b :: r => if isDigit a && isDigit b then some (natOfDigits [a, b], r) else none
  | _ => none

/-- An offset from universal time in seconds: `Z`, `UTC`, or a sign with hours and minutes. -/
def offset? (cs : List Char) : Option (Int × List Char) :=
  match cs with
  | 'Z' :: r | 'z' :: r => some (0, r)
  | sign :: r =>
    if (cs.take 3).map Char.toUpper = ['U', 'T', 'C'] then some (0, cs.drop 3)
    else if sign = '+' || sign = '-' || sign = '\u2212' then do
      let (hours, r) ← twoDigits? r
      let r := r.dropWhile fun c => c == ':' || Text.isBlank c
      let (minutes, r) ← twoDigits? r
      let seconds : Int := hours * 3600 + minutes * 60
      if 60 ≤ minutes || (daySeconds : Int) ≤ seconds then none
      else some (if sign = '+' then seconds else -seconds, r)
    else none
  | [] => none

/-- The instant of a local date and time of day with an offset. -/
def ofLocal (date : Date) (second nano : Nat) (offset : Int) : Instant :=
  let t : Int := second - offset
  if t < 0 then ⟨date.previous, (t + daySeconds).toNat, nano⟩
  else if (daySeconds : Int) ≤ t then ⟨date.next, (t - daySeconds).toNat, nano⟩
  else ⟨date, t.toNat, nano⟩

/-- Read an instant: date, time of day and offset. -/
def read? (s : String) : Option Instant := do
  let (date, cs) ← Date.readPrefix? s.toList
  let cs ← match cs with
    | 'T' :: r | 't' :: r | ' ' :: r => some r
    | _ => none
  let (hour, cs) ← Date.field? 2 cs
  let cs ← Date.separator? ':' cs
  let (minute, cs) ← Date.field? 2 cs
  let cs ← Date.separator? ':' cs
  let (second, cs) ← Date.field? 2 cs
  let (nano, cs) ← fraction? cs
  let (offset, cs) ← offset? (Text.dropBlanks cs)
  if 24 ≤ hour || 60 ≤ minute || 61 ≤ second || !cs.all Text.isBlank then none
  else
    let leap := second == 60
    let t := ofLocal date (hour * 3600 + minute * 60 + (if leap then 59 else second))
      (if leap then nanosPerSecond + nano else nano) offset
    if Date.yearInRange t.date.year then some t else none

/-! ## Printing -/

/-- The fraction of a second in the fewest groups of three digits that are exact. -/
def fractionChars (nano : Nat) : List Char :=
  if nano = 0 then []
  else if nano % 1000000 = 0 then '.' :: Date.padded 3 (nano / 1000000)
  else if nano % 1000 = 0 then '.' :: Date.padded 6 (nano / 1000)
  else '.' :: Date.padded 9 nano

/-- The characters of an instant without its offset. -/
def toChars (t : Instant) : List Char :=
  let leap := nanosPerSecond ≤ t.nano
  let second := t.second % 60 + (if leap then 1 else 0)
  t.date.toChars ++ 'T' :: Date.padded 2 (t.second / 3600) ++ ':'
    :: Date.padded 2 (t.second / 60 % 60) ++ ':' :: Date.padded 2 second
    ++ fractionChars (t.nano % nanosPerSecond)

/-- The text of an instant, ending in `Z`. -/
def text (t : Instant) : String := String.ofList (t.toChars ++ ['Z'])

/-- The text of an instant, ending in an offset of zero. -/
def offsetText (t : Instant) : String := String.ofList (t.toChars ++ "+00:00".toList)

end Instant
end Payables
