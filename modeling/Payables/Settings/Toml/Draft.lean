/-
# Tables of a settings file under construction

Tables come into being in three ways: a heading names them, they lie on the way to a table that a
heading names, or they lie on the way to a value in a key of several parts.  How a table came into
being decides what may still be added to it, so that no table is defined in two places.
-/
import Payables.Json.Basic

namespace Payables.Settings.Toml

/-- How a table came into being. -/
inductive Origin where
  | heading
  | passed
  | dotted
  deriving DecidableEq, Repr

/-- What a name stands for: a value, a table, or a row of tables of that name. -/
inductive Node where
  | value (j : Json)
  | table (origin : Origin) (fields : List (String × Node))
  | row (tables : List (List (String × Node)))

/-- The names of a table. -/
abbrev Fields := List (String × Node)

namespace Fields

/-- What a name stands for. -/
def find? (key : String) (t : Fields) : Option Node :=
  (List.find? (fun f => f.1 == key) t).map Prod.snd

/-- The table with a name set. -/
def set (key : String) (n : Node) : Fields → Fields
  | [] => [(key, n)]
  | (k, m) :: r => if k == key then (key, n) :: r else (k, m) :: set key n r

/-- Change the last table of a row. -/
def changeLast? (f : Fields → Option Fields) (ts : List Fields) : Option (List Fields) :=
  match ts.getLast? with
  | some t => (f t).map fun t => ts.dropLast ++ [t]
  | none => none

/-- Change the table at the end of a path.  Missing tables are passed on the way, and a row is
entered at its last table. -/
def within? (f : Fields → Option Fields) : List String → Fields → Option Fields
  | [], t => f t
  | k :: ks, t =>
    match find? k t with
    | none => (within? f ks []).map fun u => set k (.table .passed u) t
    | some (.table origin u) => (within? f ks u).map fun u => set k (.table origin u) t
    | some (.row ts) => (changeLast? (within? f ks) ts).map fun ts => set k (.row ts) t
    | some (.value _) => none

/-- Define a table by a heading: a new one, or one that has only been passed. -/
def define? (key : String) (t : Fields) : Option Fields :=
  match find? key t with
  | none => some (set key (.table .heading []) t)
  | some (.table .passed u) => some (set key (.table .heading u) t)
  | some _ => none

/-- Add a table to a row of tables. -/
def extend? (key : String) (t : Fields) : Option Fields :=
  match find? key t with
  | none => some (set key (.row [[]]) t)
  | some (.row ts) => some (set key (.row (ts ++ [[]])) t)
  | some _ => none

/-- Add a value under a key of one or more parts.  Its name must be free; the tables on the way
must not stem from a heading, and the one that takes the value must be `writable`: the table that
is open, or one that such a key has made. -/
def put? (v : Json) : Bool → List String → Fields → Option Fields
  | _, [], _ => none
  | writable, [k], t =>
    if writable && (find? k t).isNone then some (set k (.value v) t) else none
  | _, k :: ks, t =>
    match find? k t with
    | none => (put? v true ks []).map fun u => set k (.table .dotted u) t
    | some (.table .heading _) => none
    | some (.table origin u) =>
      (put? v (origin == .dotted) ks u).map fun u => set k (.table origin u) t
    | some (.row ts) => (changeLast? (put? v false ks) ts).map fun ts => set k (.row ts) t
    | some (.value _) => none

end Fields

mutual

/-- The finished value of a node. -/
def Node.toJson : Node → Json
  | .value j => j
  | .table _ fields => .object (fieldsToJson fields)
  | .row tables => .array (rowToJson tables)

/-- The finished values of a table. -/
def fieldsToJson : List (String × Node) → List (String × Json)
  | [] => []
  | (k, n) :: r => (k, n.toJson) :: fieldsToJson r

/-- The finished values of a row of tables. -/
def rowToJson : List (List (String × Node)) → List Json
  | [] => []
  | t :: r => .object (fieldsToJson t) :: rowToJson r

end

/-- The finished value of a table. -/
def Fields.toJson (t : Fields) : Json := .object (fieldsToJson t)

end Payables.Settings.Toml
