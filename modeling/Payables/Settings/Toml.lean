/-
# Settings files

A settings file is a sequence of lines: headings that open tables, keys with values, and comments.
It is read as one tree; a key or a table that is defined twice is an error.
-/
import Payables.Settings.Toml.Draft
import Payables.Settings.Toml.Scalar

namespace Payables.Settings.Toml

/-! ## Comments and keys -/

/-- The text behind a comment, if it starts with one. -/
def skipComment : List Char → List Char
  | '#' :: r => r.dropWhile isPlain
  | cs => cs

/-- The text behind blanks, comments and line ends; `fuel` bounds their number. -/
def skipLines : Nat → List Char → List Char
  | 0, cs => cs
  | fuel + 1, cs =>
    let r := skipComment (skipSpace cs)
    match newline? r with
    | some r => skipLines fuel r
    | none => r

/-- The text behind the end of a line. -/
def lineEnd? (cs : List Char) : Option (List Char) :=
  match skipComment (skipSpace cs) with
  | [] => some []
  | r => newline? r

/-- A character of a key without quotes. -/
def isBare (c : Char) : Bool :=
  isDigit c || ('a' ≤ c && c ≤ 'z') || ('A' ≤ c && c ≤ 'Z') || c == '_' || c == '-'

/-- A part of a key. -/
def keyPart? (cs : List Char) : Option (String × List Char) :=
  match cs with
  | '"' :: _ | '\x27' :: _ => shortText? cs
  | _ =>
    let k := cs.takeWhile isBare
    if k.isEmpty then none else some (String.ofList k, cs.dropWhile isBare)

/-- How deep values may be nested, and how many parts a key may have. -/
def deepest : Nat := 79

/-- A key of at most so many parts with points between them. -/
def keyParts? : Nat → List Char → Option (List String × List Char)
  | 0, _ => none
  | most + 1, cs => do
    let (k, r) ← keyPart? (skipSpace cs)
    match skipSpace r with
    | '.' :: r =>
      let (ks, rest) ← keyParts? most r
      some (k :: ks, rest)
    | r => some ([k], r)

/-- A key. -/
def key? (cs : List Char) : Option (List String × List Char) := keyParts? deepest cs

/-! ## Values -/

/-- The values of an array up to its closing bracket; `fuel` bounds their number. -/
def items? (value? : List Char → Option (Json × List Char)) :
    Nat → List Char → Option (List Json × List Char)
  | 0, _ => none
  | fuel + 1, cs =>
    match skipLines cs.length cs with
    | ']' :: rest => some ([], rest)
    | r => do
      let (v, r) ← value? r
      match skipLines r.length r with
      | ',' :: r =>
        let (vs, rest) ← items? value? fuel r
        some (v :: vs, rest)
      | ']' :: rest => some ([v], rest)
      | _ => none

/-- A key and its value. -/
def pair? (value? : List Char → Option (Json × List Char)) (cs : List Char) :
    Option ((List String × Json) × List Char) := do
  let (path, r) ← key? cs
  let r ← behind? '=' r
  let (v, r) ← value? (skipSpace r)
  some ((path, v), skipSpace r)

/-- The pairs of a table in braces up to its closing brace; `fuel` bounds their number. -/
def pairs? (value? : List Char → Option (Json × List Char)) :
    Nat → Fields → List Char → Option (Fields × List Char)
  | 0, _, _ => none
  | fuel + 1, t, cs => do
    let ((path, v), r) ← pair? value? cs
    let t ← t.put? v true path
    match r with
    | ',' :: r => pairs? value? fuel t r
    | '}' :: rest => some (t, rest)
    | _ => none

/-- A value in front of the rest, nested so many levels deep at most. -/
def value? : Nat → List Char → Option (Json × List Char)
  | 0, cs => scalar? cs
  | depth + 1, cs =>
    match cs with
    | '[' :: r => (items? (value? depth) (r.length + 1) r).map fun (vs, rest) => (.array vs, rest)
    | '{' :: r =>
      match skipSpace r with
      | '}' :: rest => some (.object [], rest)
      | _ => (pairs? (value? depth) (r.length + 1) [] r).map fun (t, rest) => (t.toJson, rest)
    | _ => scalar? cs

/-! ## Files -/

/-- A file being read: its tables so far, and the path of the one that is open. -/
structure Draft where
  fields : Fields
  current : List String

/-- Open the table of a heading. -/
def Draft.open? (d : Draft) (row : Bool) (path : List String) : Option Draft :=
  match path.getLast? with
  | none => none
  | some k =>
    let step : Fields → Option Fields := if row then Fields.extend? k else Fields.define? k
    (d.fields.within? step path.dropLast).map fun t => ⟨t, path⟩

/-- Add a value to the table that is open. -/
def Draft.put? (d : Draft) (path : List String) (v : Json) : Option Draft :=
  (d.fields.within? (Fields.put? v true path) d.current).map fun t => { d with fields := t }

/-- A heading behind its first bracket.  Two brackets start another table of a row. -/
def heading? (d : Draft) (cs : List Char) : Option (Draft × List Char) := do
  let row := (behind? '[' cs).isSome
  let (path, r) ← key? (if row then cs.drop 1 else cs)
  let r ← behind? ']' r
  let r ← if row then behind? ']' r else some r
  let rest ← lineEnd? r
  let d ← d.open? row path
  some (d, rest)

/-- A line with a key and its value. -/
def entry? (d : Draft) (cs : List Char) : Option (Draft × List Char) := do
  let ((path, v), r) ← pair? (value? deepest) cs
  let rest ← lineEnd? r
  let d ← d.put? path v
  some (d, rest)

/-- Read lines up to the end; `fuel` bounds their number. -/
def lines? : Nat → Draft → List Char → Option Draft
  | 0, _, _ => none
  | fuel + 1, d, cs =>
    match skipLines cs.length cs with
    | [] => some d
    | '[' :: r => do
      let (d, rest) ← heading? d r
      lines? fuel d rest
    | r => do
      let (d, rest) ← entry? d r
      lines? fuel d rest

/-- The text behind a byte order mark, if it starts with one. -/
def skipMark : List Char → List Char
  | '\ufeff' :: r => r
  | cs => cs

/-- Read the tables of a file.  Up to two byte order marks may stand in front. -/
def read? (s : String) : Option (List (String × Json)) := do
  let cs := skipMark (skipMark s.toList)
  let d ← lines? (cs.length + 1) ⟨[], []⟩ cs
  match settle? d.fields.toJson with
  | some (.object t) => some t
  | _ => none

end Payables.Settings.Toml
