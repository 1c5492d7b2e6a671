/-
# Values without parts in a settings file

An integer has no superfluous zeros in front, or a mark of its base; single underscores may stand
between digits.
-/
import Payables.Settings.Toml.Moment
import Payables.Settings.Toml.Quoted
import Payables.Binary64.Text

namespace Payables.Settings.Toml

/-! ## Digits -/

/-- The digits that go on a row, each with at most one underscore in front of it. -/
def moreDigits? (isOne : Char → Bool) : List Char → Option (List Char × List Char)
  | [] => some ([], [])
  | '_' :: c :: r => if isOne c then
      (moreDigits? isOne r).map fun (ds, rest) => (c :: ds, rest) else none
  | c :: r => if isOne c then
      (moreDigits? isOne r).map fun (ds, rest) => (c :: ds, rest)
    else if c == '_' then none
    else some ([], c :: r)

/-- A row of digits, underscores left out. -/
def digitRow? (isOne : Char → Bool) : List Char → Option (List Char × List Char)
  | [] => none
  | c :: r => if isOne c then
      (moreDigits? isOne r).map fun (ds, rest) => (c :: ds, rest) else none

/-- A row of decimal digits; zero stands alone in front. -/
def whole? : List Char → Option (List Char × List Char)
  | '0' :: r => some (['0'], r)
  | cs => digitRow? isDigit cs

/-! ## Numbers -/

/-- An integer of 64 bits. -/
def integer? (n : Int) : Option Json :=
  if -9223372036854775808 ≤ n && n ≤ 9223372036854775807 then some (.integer n) else none

/-- A row of digits in a base. -/
def inBase? (base : Nat) (cs : List Char) : Option (Json × List Char) := do
  let value (c : Char) : Nat := (Json.hexValue? c).getD base
  let (ds, rest) ← digitRow? (fun c => value c < base) cs
  let j ← integer? (ds.foldl (fun n c => base * n + value c) 0 : Nat)
  some (j, rest)

/-- The exponent that may stand behind a numeral. -/
def exponent? (cs : List Char) : Option (Option Int × List Char) :=
  let behindMark := match cs with
    | 'e' :: r | 'E' :: r => some r
    | _ => none
  match behindMark with
  | none => some (none, cs)
  | some r =>
    let (negative, r) := Binary64.splitSign r
    (digitRow? isDigit r).map fun (ds, rest) =>
      (some (if negative then -(natOfDigits ds : Int) else natOfDigits ds), rest)

/-- The fraction that may stand behind a numeral; none has no digits. -/
def fraction? : List Char → Option (List Char × List Char)
  | '.' :: r => digitRow? isDigit r
  | cs => some ([], cs)

/-- A number that is not written as an integer.  One above the range of binary64 is refused; one
below it is minus infinity. -/
def real? (x : Binary64) : Option Json :=
  match x with
  | .infinite false => none
  | x => some (.real x)

/-- A numeral behind its sign. -/
def numeral? (negative : Bool) (cs : List Char) : Option (Json × List Char) := do
  let (lead, r) ← whole? cs
  let (fraction, r) ← fraction? r
  let (exponent, r) ← exponent? r
  let n := natOfDigits (lead ++ fraction)
  let j ← if fraction.isEmpty && exponent.isNone then
      integer? (if negative then -(n : Int) else n)
    else real? (Binary64.ofNumeral negative n (fraction.length - exponent.getD 0))
  some (j, r)

/-- A number in front of the rest. -/
def number? (cs : List Char) : Option (Json × List Char) :=
  match cs with
  | '0' :: 'x' :: r => inBase? 16 r
  | '0' :: 'o' :: r => inBase? 8 r
  | '0' :: 'b' :: r => inBase? 2 r
  | _ =>
    let (negative, r) := Binary64.splitSign cs
    match r with
    | 'i' :: 'n' :: 'f' :: rest => some (.real (.infinite negative), rest)
    | 'n' :: 'a' :: 'n' :: rest => some (.real .nan, rest)
    | _ => numeral? negative r

/-! ## Scalars -/

/-- A value without parts in front of the rest. -/
def scalar? (cs : List Char) : Option (Json × List Char) :=
  match cs with
  | 't' :: 'r' :: 'u' :: 'e' :: r => some (.bool true, r)
  | 'f' :: 'a' :: 'l' :: 's' :: 'e' :: r => some (.bool false, r)
  | '"' :: _ | '\x27' :: _ => (text? cs).map fun (s, rest) => (.text s, rest)
  | _ =>
    match moment? written cs with
    | some (s, rest) => some (momentTable s, rest)
    | none => number? cs

end Payables.Settings.Toml
