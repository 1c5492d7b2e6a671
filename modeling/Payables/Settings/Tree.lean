/-
# The tree of settings

Settings from several places are merged into one tree.  Case does not matter in its names, and a
name such as `server.port` or `server[1]` leads to a place inside it.
-/
import Payables.Json.Basic
import Payables.Decimal.Text
import Payables.Text.Case

namespace Payables.Settings

/-! ## Tables and lists -/

/-- A name as it stands in the tree. -/
def treeName (s : String) : String := String.ofList (Text.lower s.toList)

/-- The fields of a table; anything else gives way to an empty one. -/
def tableFields : Json → List (String × Json)
  | .object t => t
  | _ => []

/-- The items of a list; anything else gives way to an empty one. -/
def listItems : Json → List Json
  | .array js => js
  | _ => []

/-- What a name stands for in a table, or `missing`. -/
def childOr (missing : Json) (key : String) (j : Json) : Json :=
  (Json.findField (treeName key) (tableFields j)).getD missing

/-- A table with a name set. -/
def setChild (key : String) (v j : Json) : Json :=
  .object (Json.setField (treeName key) v (tableFields j))

/-- The place of an index in a list; one below zero counts from the end. -/
def position? (length : Nat) (index : Int) : Option Nat :=
  if 0 ≤ index then some index.toNat
  else if index.natAbs ≤ length then some (length - index.natAbs)
  else none

/-- Change the item of a list at an index.  The list grows by empty items as far as need be. -/
def changeItem (index : Int) (f : Json → Json) (js : List Json) : List Json :=
  match position? js.length index with
  | none => js
  | some i =>
    let js := js ++ List.replicate (i + 1 - js.length) .null
    js.take i ++ f (js.getD i .null) :: js.drop (i + 1)

/-! ## Merging -/

mutual

/-- Set a name of a table.  A table is merged into the one that is there. -/
def merge (key : String) : Json → Json → Json
  | .object fields, j => setChild key (mergeFields fields (childOr (.object []) key j)) j
  | v, j => setChild key v j

/-- Set the names of a table one after the other. -/
def mergeFields : List (String × Json) → Json → Json
  | [], j => j
  | (k, v) :: r, j => mergeFields r (merge k v j)

end

/-! ## Paths -/

/-- A step into the tree. -/
inductive Step where
  | child (key : String)
  | item (index : Int)
  deriving DecidableEq, Repr

/-- A character of a name on a path. -/
def isNameChar (c : Char) : Bool :=
  isDigit c || ('a' ≤ c && c ≤ 'z') || ('A' ≤ c && c ≤ 'Z') || c == ' ' || c == '_' || c == '-'

/-- A name in front of the rest. -/
def name? (cs : List Char) : Option (String × List Char) :=
  let k := cs.takeWhile isNameChar
  if k.isEmpty then none else some (String.ofList k, cs.dropWhile isNameChar)

/-- The index between two brackets, behind the first of them. -/
def index? (cs : List Char) : Option (Int × List Char) := do
  let inside := cs.takeWhile (· != ']')
  let rest ← (cs.dropWhile (· != ']')).tail?
  let word := (inside.dropWhile isBlank).reverse.dropWhile isBlank
  let n ← if word.reverse.head? = some '+' then none else readInt? word.reverse
  if -9223372036854775808 ≤ n && n ≤ 9223372036854775807 then some (n, rest) else none
where
  isBlank (c : Char) : Bool := c == ' ' || c == '\t'

/-- The steps behind the first name of a path; `fuel` bounds their number. -/
def steps? : Nat → List Char → Option (List Step)
  | 0, _ => none
  | fuel + 1, cs =>
    match cs with
    | [] => some []
    | '.' :: r => do
      let (k, r) ← name? r
      (steps? fuel r).map (.child k :: ·)
    | '[' :: r => do
      let (n, r) ← index? r
      (steps? fuel r).map (.item n :: ·)
    | _ => none

/-- The path that a name spells. -/
def path? (s : String) : Option (List Step) := do
  let (k, r) ← name? s.toList
  (steps? (r.length + 1) r).map (.child k :: ·)

/-- Set the place at the end of a path.  What is in the way on it gives way. -/
def place (v : Json) : List Step → Json → Json
  | [], _ => v
  | [.child k], j => merge k v j
  | .child k :: r, j => setChild k (place v r (childOr .null k j)) j
  | .item n :: r, j => .array (changeItem n (place v r) (listItems j))

/-- Set the place that a name leads to; a name that spells no path is a name of the tree itself. -/
def put (key : String) (v tree : Json) : Json :=
  match path? key with
  | some path => place v path tree
  | none => merge key v tree

/-- Set the places that names lead to, one after the other. -/
def putAll (fields : List (String × Json)) (tree : Json) : Json :=
  fields.foldl (fun j f => put f.1 f.2 j) tree

end Payables.Settings
