/-
# Reading exchange values

A value is read from the front of a list of characters.  An integer without fraction or exponent
that fits 64 bits is kept exactly; any other number is binary64, with its significand and its
power of ten each rounded before they are combined.
-/
import Payables.Json.Basic
import Payables.Decimal.Text

namespace Payables.Json

/-- The blanks between tokens. -/
def isSpace (c : Char) : Bool := c == ' ' || c == '\n' || c == '\t' || c == '\r'

/-- The text behind its leading blanks. -/
def skipSpace (cs : List Char) : List Char := cs.dropWhile isSpace

/-! ## Strings -/

/-- The number that a hexadecimal digit stands for. -/
def hexValue? (c : Char) : Option Nat :=
  if isDigit c then some (digitValue c)
  else if 'a' ≤ c && c ≤ 'f' then some (c.toNat - 'a'.toNat + 10)
  else if 'A' ≤ c && c ≤ 'F' then some (c.toNat - 'A'.toNat + 10)
  else none

/-- The number that four hexadecimal digits stand for. -/
def hexFour? (a b c d : Char) : Option Nat := do
  let a ← hexValue? a
  let b ← hexValue? b
  let c ← hexValue? c
  let d ← hexValue? d
  some (((a * 16 + b) * 16 + c) * 16 + d)

/-- The character that a one-letter escape stands for. -/
def escaped? : Char → Option Char
  | '"' => some '"'
  | '\\' => some '\\'
  | '/' => some '/'
  | 'b' => some '\x08'
  | 'f' => some '\x0c'
  | 'n' => some '\n'
  | 'r' => some '\r'
  | 't' => some '\t'
  | _ => none

/-- The first half of a pair of code units. -/
def isHighUnit (n : Nat) : Bool := 0xD800 ≤ n && n < 0xDC00

/-- The second half of a pair of code units. -/
def isLowUnit (n : Nat) : Bool := 0xDC00 ≤ n && n < 0xE000

/-- The character of a code unit, with the first half of a pair that it may complete; a first half
alone gives no character yet. -/
def joinUnit? (pending : Option Nat) (n : Nat) : Option (Option Nat × List Char) :=
  match pending with
  | some hi =>
    if isLowUnit n then
      some (none, [Char.ofNat (0x10000 + (hi - 0xD800) * 0x400 + (n - 0xDC00))])
    else none
  | none =>
    if isHighUnit n then some (some n, [])
    else if isLowUnit n then none
    else some (none, [Char.ofNat n])

/-- The characters of a string up to its closing quote, and the rest.  `pending` is the first half
of a pair of code units that has to be completed next. -/
def stringBody? : Option Nat → List Char → Option (List Char × List Char)
  | _, [] => none
  | pending, '\\' :: 'u' :: a :: b :: c :: d :: r => do
    let n ← hexFour? a b c d
    let (pending, out) ← joinUnit? pending n
    let (cs, rest) ← stringBody? pending r
    some (out ++ cs, rest)
  | some _, _ => none
  | none, '"' :: r => some ([], r)
  | none, '\\' :: c :: r => do
    let c ← escaped? c
    let (cs, rest) ← stringBody? none r
    some (c :: cs, rest)
  | none, c :: r =>
    if c.toNat < 0x20 || c == '\\' then none
    else do
      let (cs, rest) ← stringBody? none r
      some (c :: cs, rest)

/-! ## Numbers -/

/-- Digits appended to a significand while it fits 64 bits, and how many were. -/
def appendDigits : Nat → List Char → Nat × Nat
  | n, [] => (n, 0)
  | n, d :: r =>
    let m := 10 * n + digitValue d
    if m ≤ 18446744073709551615 then
      let (v, k) := appendDigits m r
      (v, k + 1)
    else (n, 0)

/-- A significand times a power of ten, each rounded, the result rounded again.  `none` where it
would be infinite. -/
def combine? : Nat → Binary64 → Int → Option Binary64
  | 0, x, _ => some x
  | fuel + 1, x, e =>
    if -308 ≤ e && e ≤ 308 then
      let power := Binary64.ofRat ((10 : Rat) ^ (e.natAbs : Int))
      let y := if 0 ≤ e then x.mul power else x.div power
      if y.isFinite then some y else none
    else if x.value = 0 then some x
    else if 0 ≤ e then none
    else combine? fuel (x.div (Binary64.ofRat ((10 : Rat) ^ (308 : Int)))) (e + 308)

/-- A number of a sign, a significand and an exponent. -/
def assemble? (negative : Bool) (significand : Nat) (exponent : Int) : Option Json := do
  let x ← combine? 4 (Binary64.ofNat significand) exponent
  some (.real (if negative then x.mul (Binary64.ofInt (-1)) else x))

/-- Integer digits: a zero alone, or digits that do not start with one. -/
def integerDigits? (cs : List Char) : Option (List Char × List Char) :=
  match cs with
  | '0' :: r => match r with
    | c :: _ => if isDigit c then none else some (['0'], r)
    | [] => some (['0'], r)
  | _ =>
    let ds := cs.takeWhile isDigit
    if ds.isEmpty then none else some (ds, cs.dropWhile isDigit)

/-- The digits behind a point, if there is one. -/
def fractionDigits? (cs : List Char) : Option (Option (List Char) × List Char) :=
  match cs with
  | '.' :: r =>
    let ds := r.takeWhile isDigit
    if ds.isEmpty then none else some (some ds, r.dropWhile isDigit)
  | _ => some (none, cs)

/-- An exponent, if there is one. -/
def exponent? (cs : List Char) : Option (Option Int × List Char) :=
  match cs with
  | c :: r =>
    if c == 'e' || c == 'E' then
      let (negative, r) := match r with
        | '-' :: r => (true, r)
        | '+' :: r => (false, r)
        | r => (false, r)
      let ds := r.takeWhile isDigit
      if ds.isEmpty then none
      else
        let n : Int := natOfDigits ds
        some (some (if negative then -n else n), r.dropWhile isDigit)
    else some (none, cs)
  | [] => some (none, cs)

/-- A number in front of the rest. -/
def number? (cs : List Char) : Option (Json × List Char) := do
  let (negative, cs) := match cs with
    | '-' :: r => (true, r)
    | r => (false, r)
  let (whole, cs) ← integerDigits? cs
  let (fraction, cs) ← fractionDigits? cs
  let (exponent, cs) ← exponent? cs
  let (n, kept) := appendDigits 0 whole
  let dropped : Int := whole.length - kept
  match fraction, exponent with
  | none, none =>
    if dropped = 0 && !negative then some (.integer n, cs)
    else if dropped = 0 && n ≠ 0 && n ≤ 9223372036854775808 then some (.integer (-(n : Int)), cs)
    else (assemble? negative n dropped).map fun j => (j, cs)
  | _, _ =>
    let (m, places) := appendDigits n (fraction.getD [])
    (assemble? negative m (dropped - places + exponent.getD 0)).map fun j => (j, cs)

/-! ## Values -/

mutual

/-- A value in front of the rest.  `fuel` bounds the nesting. -/
def value? : Nat → List Char → Option (Json × List Char)
  | 0, _ => none
  | fuel + 1, cs =>
    match skipSpace cs with
    | 'n' :: 'u' :: 'l' :: 'l' :: r => some (.null, r)
    | 't' :: 'r' :: 'u' :: 'e' :: r => some (.bool true, r)
    | 'f' :: 'a' :: 'l' :: 's' :: 'e' :: r => some (.bool false, r)
    | '"' :: r => (stringBody? none r).map fun (s, rest) => (.text (String.ofList s), rest)
    | '[' :: r =>
      match skipSpace r with
      | ']' :: rest => some (.array [], rest)
      | _ => (items? fuel r).map fun (vs, rest) => (.array vs, rest)
    | '{' :: r =>
      match skipSpace r with
      | '}' :: rest => some (.object [], rest)
      | _ => (fields? fuel r []).map fun (fs, rest) => (.object fs, rest)
    | r => number? r

/-- Values up to a closing bracket. -/
def items? : Nat → List Char → Option (List Json × List Char)
  | 0, _ => none
  | fuel + 1, cs => do
    let (v, r) ← value? fuel cs
    match skipSpace r with
    | ',' :: r =>
      let (vs, rest) ← items? fuel r
      some (v :: vs, rest)
    | ']' :: rest => some ([v], rest)
    | _ => none

/-- Named values up to a closing brace, added to those before them.  A later value of a name
replaces an earlier one. -/
def fields? : Nat → List Char → List (String × Json) → Option (List (String × Json) × List Char)
  | 0, _, _ => none
  | fuel + 1, cs, done =>
    match skipSpace cs with
    | '"' :: r => do
      let (name, r) ← stringBody? none r
      match skipSpace r with
      | ':' :: r => do
        let (v, r) ← value? fuel r
        let done := setField (String.ofList name) v done
        match skipSpace r with
        | ',' :: r => fields? fuel r done
        | '}' :: rest => some (done, rest)
        | _ => none
      | _ => none
    | _ => none

end

/-- Read a text that holds one value. -/
def read? (s : String) : Option Json :=
  let cs := s.toList
  match value? (2 * cs.length + 2) cs with
  | some (v, rest) => if rest.all isSpace then some v else none
  | none => none

end Payables.Json
