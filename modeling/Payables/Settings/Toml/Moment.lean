/-
# Dates and times of a settings file

A date, a time of day, or both count as text, in one spelling whatever the one they are written in.
Until a file has been read to its end they are kept as tables with a key of their own, and a table
that a file writes that way counts as a date or time too.
-/
import Payables.Json.Basic
import Payables.Calendar.Instant

namespace Payables.Settings.Toml

/-! ## Reading -/

/-- The text behind a character. -/
def behind? (c : Char) : List Char → Option (List Char)
  | d :: r => if d = c then some r else none
  | [] => none

/-- The greatest hour of a day, and the greatest hours and minutes of an offset. -/
structure ClockLimits where
  hour : Nat
  offsetHours : Nat
  offsetMinutes : Nat

/-- The limits for a date or time that stands as a value. -/
def written : ClockLimits := ⟨23, 23, 59⟩

/-- The limits for a date or time in quotes. -/
def quoted : ClockLimits := ⟨24, 99, 99⟩

/-- The minutes of a day, the most that an offset may have. -/
def dayMinutes : Nat := 1440

/-- Two digits that give a number of at most `top`. -/
def twoDigits? (top : Nat) (cs : List Char) : Option (Nat × List Char) :=
  (Instant.twoDigits? cs).filter fun (n, _) => n ≤ top

/-- A date. -/
def date? (cs : List Char) : Option (Date × List Char) := do
  let (century, r) ← twoDigits? 99 cs
  let (year, r) ← twoDigits? 99 r
  let r ← behind? '-' r
  let (month, r) ← twoDigits? 12 r
  let r ← behind? '-' r
  let (day, r) ← twoDigits? 31 r
  let d ← Date.ofParts? (100 * century + year : Nat) month day
  some (d, r)

/-- The fraction of a second, without zeros at the end. -/
def nanoChars (nano : Nat) : List Char :=
  if nano = 0 then []
  else '.' :: ((Date.padded 9 nano).reverse.dropWhile (· == '0')).reverse

/-- The characters of a time of day. -/
def time? (limits : ClockLimits) (cs : List Char) : Option (List Char × List Char) := do
  let (hour, r) ← twoDigits? limits.hour cs
  let r ← behind? ':' r
  let (minute, r) ← twoDigits? 59 r
  let r ← behind? ':' r
  let (second, r) ← twoDigits? 60 r
  let (nano, r) ← Instant.fraction? r
  some (Date.padded 2 hour ++ ':' :: Date.padded 2 minute ++ ':' :: Date.padded 2 second
    ++ nanoChars nano, r)

/-- The characters of an offset from universal time; there may be none. -/
def offset? (limits : ClockLimits) (cs : List Char) : Option (List Char × List Char) :=
  match cs with
  | 'Z' :: r | 'z' :: r => some (['Z'], r)
  | sign :: r =>
    if sign = '+' || sign = '-' then do
      let (hours, r) ← twoDigits? limits.offsetHours r
      let r ← behind? ':' r
      let (minutes, r) ← twoDigits? limits.offsetMinutes r
      let total := 60 * hours + minutes
      let sign := if total = 0 then '+' else sign
      if dayMinutes < total then none
      else some (sign :: Date.padded 2 (total / 60) ++ ':' :: Date.padded 2 (total % 60), r)
    else some ([], cs)
  | [] => some ([], [])

/-- The characters of a time of day that may follow a date. -/
def timeOfDate? (limits : ClockLimits) (cs : List Char) : Option (List Char × List Char) := do
  let r ← behind? 'T' cs <|> behind? 't' cs <|> behind? ' ' cs
  let (time, r) ← time? limits r
  let (offset, r) ← offset? limits r
  some ('T' :: time ++ offset, r)

/-- The characters of a date, a time of day, or both. -/
def moment? (limits : ClockLimits) (cs : List Char) : Option (List Char × List Char) :=
  match date? cs with
  | none => time? limits cs
  | some (d, r) =>
    let (time, rest) := (timeOfDate? limits r).getD ([], r)
    some (d.toChars ++ time, rest)

/-! ## As tables -/

/-- The key that makes a table a date or time where it comes first. -/
def momentKey : String := "$__toml_private_datetime"

/-- The table that stands for a date or time. -/
def momentTable (s : List Char) : Json := .object [(momentKey, .text (String.ofList s))]

/-- The date or time in a text, and nothing else. -/
def momentText? : Json → Option Json
  | .text s =>
    match moment? quoted s.toList with
    | some (cs, []) => some (.text (String.ofList cs))
    | _ => none
  | _ => none

mutual

/-- A value with its dates and times as text. -/
def settle? : Json → Option Json
  | .object ((k, v) :: r) =>
    if k = momentKey then momentText? v
    else do
      let v ← settle? v
      let r ← settleFields? r
      some (.object ((k, v) :: r))
  | .array js => (settleItems? js).map .array
  | j => some j

/-- The fields of a table with their dates and times as text. -/
def settleFields? : List (String × Json) → Option (List (String × Json))
  | [] => some []
  | (k, v) :: r => do
    let v ← settle? v
    let r ← settleFields? r
    some ((k, v) :: r)

/-- The items of a list with their dates and times as text. -/
def settleItems? : List Json → Option (List Json)
  | [] => some []
  | j :: r => do
    let j ← settle? j
    let r ← settleItems? r
    some (j :: r)

end

end Payables.Settings.Toml
