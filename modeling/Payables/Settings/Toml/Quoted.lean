/-
# Quoted text of a settings file

Text stands between double quotes, where a backslash starts an escape, or between single quotes,
where each character stands for itself.  Three quotes in place of one make a long text, which may
go over several lines.
-/
import Payables.Json.Reader

namespace Payables.Settings.Toml

/-! ## Blanks and line ends -/

/-- A blank inside a line. -/
def isSpace (c : Char) : Bool := c == ' ' || c == '\t'

/-- The text behind the blanks of a line. -/
def skipSpace (cs : List Char) : List Char := cs.dropWhile isSpace

/-- The text behind a line end. -/
def newline? : List Char → Option (List Char)
  | '\n' :: r => some r
  | '\r' :: '\n' :: r => some r
  | _ => none

/-- A line ends in front of the text, but for blanks. -/
def lineIsOver (cs : List Char) : Bool := (newline? (skipSpace cs)).isSome

/-- A character that stands for itself: all but the control characters, and the tab. -/
def isPlain (c : Char) : Bool := c == '\t' || (0x20 ≤ c.toNat && c.toNat != 0x7F)

/-! ## Escapes -/

/-- The character whose code point a row of hexadecimal digits gives. -/
def hexChar? (ds : List Char) : Option Char := do
  let n ← ds.foldl (fun n c => do
    let n ← n
    let d ← Json.hexValue? c
    some (n * 16 + d)) (some 0)
  if n < 0xD800 || (0xE000 ≤ n && n < 0x110000) then some (Char.ofNat n) else none

/-- The character that a one-letter escape stands for. -/
def escaped? : Char → Option Char
  | '"' => some '"'
  | '\\' => some '\\'
  | 'b' => some '\x08'
  | 't' => some '\t'
  | 'n' => some '\n'
  | 'f' => some '\x0c'
  | 'r' => some '\r'
  | _ => none

/-! ## Bodies -/

/-- The text behind closing quotes, if the text starts with them.  A long text ends at three
quotes; up to two more in front of them belong to it. -/
def closing? (quote : Char) (long : Bool) (cs : List Char) : Option (List Char × List Char) :=
  let run := (cs.takeWhile (· == quote)).length
  if long then
    let kept := min (run - 3) 2
    if run < 3 then none else some (List.replicate kept quote, cs.drop (kept + 3))
  else if run = 0 then none
  else some ([], cs.drop 1)

/-- The text between double quotes and what follows it.  In a long text a backslash at the end of
a line joins it to the next that is not blank; `joining` is set while blanks are passed over. -/
def basicBody? (long : Bool) : Bool → List Char → Option (List Char × List Char)
  | _, [] => none
  | joining, c :: r =>
    let lineEnd := c == '\n' || (c == '\r' && r.head? == some '\n')
    if joining && (isSpace c || lineEnd) then basicBody? long true r
    else
      match closing? '"' long (c :: r) with
      | some (cs, rest) => some (cs, rest)
      | none =>
        if c == '\\' then
          match r with
          | [] => none
          | 'u' :: a :: b :: c :: d :: r => do
            let x ← hexChar? [a, b, c, d]
            let (cs, rest) ← basicBody? long false r
            some (x :: cs, rest)
          | 'U' :: a :: b :: c :: d :: e :: f :: g :: h :: r => do
            let x ← hexChar? [a, b, c, d, e, f, g, h]
            let (cs, rest) ← basicBody? long false r
            some (x :: cs, rest)
          | e :: r =>
            if long && lineIsOver (e :: r) then basicBody? long true r
            else do
              let x ← escaped? e
              let (cs, rest) ← basicBody? long false r
              some (x :: cs, rest)
        else if isPlain c || (long && c == '\n') then do
          let (cs, rest) ← basicBody? long false r
          some (c :: cs, rest)
        else if long && lineEnd then basicBody? long false r
        else none

/-- The text between single quotes and what follows it. -/
def literalBody? (long : Bool) : List Char → Option (List Char × List Char)
  | [] => none
  | c :: r =>
    match closing? '\x27' long (c :: r) with
    | some (cs, rest) => some (cs, rest)
    | none =>
      if isPlain c || (long && c == '\n') then do
        let (cs, rest) ← literalBody? long r
        some (c :: cs, rest)
      else if long && c == '\r' && r.head? == some '\n' then literalBody? long r
      else none

/-! ## Quoted text -/

/-- Text inside one line, quoted, and what follows it. -/
def shortText? (cs : List Char) : Option (String × List Char) :=
  let found := match cs with
    | '"' :: r => basicBody? false false r
    | '\x27' :: r => literalBody? false r
    | _ => none
  found.map fun (cs, rest) => (String.ofList cs, rest)

/-- The text behind the line end that may follow the opening quotes of a long text. -/
def behindOpening (cs : List Char) : List Char := (newline? cs).getD cs

/-- Quoted text, long or not, and what follows it. -/
def text? (cs : List Char) : Option (String × List Char) :=
  let found := match cs with
    | '"' :: '"' :: '"' :: r => some (basicBody? true false (behindOpening r))
    | '\x27' :: '\x27' :: '\x27' :: r => some (literalBody? true (behindOpening r))
    | _ => none
  match found with
  | some body => body.map fun (cs, rest) => (String.ofList cs, rest)
  | none => shortText? cs

end Payables.Settings.Toml
