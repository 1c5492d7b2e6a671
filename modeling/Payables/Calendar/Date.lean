/-
# Calendar dates

Days of the proleptic Gregorian calendar.  The written form is `2024-03-15`; a year outside
0 to 9999 carries a sign.  Reading is lenient about blanks around the three numbers and about
leading zeros, and refuses days that do not exist.
-/
import Payables.Decimal.Text
import Payables.Text.Blank

namespace Payables

/-- A day of the calendar. -/
structure Date where
  year : Int
  month : Nat
  day : Nat
  deriving DecidableEq, Repr

namespace Date

/-! ## The calendar -/

/-- A year with a 29th of February. -/
def isLeap (year : Int) : Bool :=
  year % 4 == 0 && (year % 100 != 0 || year % 400 == 0)

/-- The number of days of a month. -/
def daysIn (year : Int) : Nat → Nat
  | 2 => if isLeap year then 29 else 28
  | 4 | 6 | 9 | 11 => 30
  | _ => 31

/-- The years that dates are kept for. -/
def yearInRange (year : Int) : Bool := -262143 ≤ year && year ≤ 262142

/-- The date of a year, month and day, if there is such a day. -/
def ofParts? (year : Int) (month day : Nat) : Option Date :=
  if yearInRange year && 1 ≤ month && month ≤ 12 && 1 ≤ day && day ≤ daysIn year month then
    some ⟨year, month, day⟩
  else none

/-- The earlier day. -/
def lt (a b : Date) : Bool :=
  decide (a.year < b.year) || (a.year == b.year &&
    (decide (a.month < b.month) || (a.month == b.month && decide (a.day < b.day))))

/-- The day after. -/
def next (d : Date) : Date :=
  if d.day < daysIn d.year d.month then { d with day := d.day + 1 }
  else if d.month < 12 then ⟨d.year, d.month + 1, 1⟩
  else ⟨d.year + 1, 1, 1⟩

/-- The day before. -/
def previous (d : Date) : Date :=
  if 1 < d.day then { d with day := d.day - 1 }
  else if 1 < d.month then ⟨d.year, d.month - 1, daysIn d.year (d.month - 1)⟩
  else ⟨d.year - 1, 12, 31⟩

/-! ## Reading -/

/-- A row of one to `width` digits in front of the rest. -/
def digits? (width : Nat) (cs : List Char) : Option (Nat × List Char) :=
  let ds := (cs.take width).takeWhile isDigit
  if ds.isEmpty then none else some (natOfDigits ds, cs.drop ds.length)

/-- A number of at most `width` digits behind optional blanks. -/
def field? (width : Nat) (cs : List Char) : Option (Nat × List Char) :=
  digits? width (Text.dropBlanks cs)

/-- A separator behind optional blanks. -/
def separator? (mark : Char) (cs : List Char) : Option (List Char) :=
  match Text.dropBlanks cs with
  | c :: r => if c = mark then some r else none
  | [] => none

/-- A year: up to four digits, or a sign and any number of digits. -/
def year? (cs : List Char) : Option (Int × List Char) :=
  match Text.dropBlanks cs with
  | '-' :: r => (digits? r.length r).map fun (n, rest) => (-(n : Int), rest)
  | '+' :: r => (digits? r.length r).map fun (n, rest) => ((n : Int), rest)
  | r => (digits? 4 r).map fun (n, rest) => ((n : Int), rest)

/-- Year, month and day in front of the rest. -/
def readPrefix? (cs : List Char) : Option (Date × List Char) := do
  let (year, cs) ← year? cs
  let cs ← separator? '-' cs
  let (month, cs) ← field? 2 cs
  let cs ← separator? '-' cs
  let (day, cs) ← field? 2 cs
  let d ← ofParts? year month day
  some (d, cs)

/-- Read a date; only blanks may follow it. -/
def read? (s : String) : Option Date := do
  let (d, rest) ← readPrefix? s.toList
  if rest.all Text.isBlank then some d else none

/-! ## Printing -/

/-- A number with at least `width` digits. -/
def padded (width n : Nat) : List Char :=
  List.replicate (width - (natDigits n).length) '0' ++ natDigits n

/-- A year: four digits, with a sign outside 0 to 9999. -/
def yearChars (year : Int) : List Char :=
  if 0 ≤ year && year ≤ 9999 then padded 4 year.natAbs
  else (if year < 0 then '-' else '+') :: padded 4 year.natAbs

/-- The characters of a date. -/
def toChars (d : Date) : List Char :=
  yearChars d.year ++ '-' :: padded 2 d.month ++ '-' :: padded 2 d.day

/-- The text of a date. -/
def text (d : Date) : String := String.ofList d.toChars

end Date
end Payables
