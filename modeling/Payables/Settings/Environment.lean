/-
# Settings from the environment

A variable such as `AUTOPILOT__SERVER__PORT` sets one value of the tree, over what a file says.
-/
import Payables.Settings.Tree
import Payables.Settings.Value

namespace Payables.Settings

/-- What the names of variables start with, in lower case. -/
def variablePrefix : List Char := "autopilot__".toList

/-- A name with each pair of underscores made into a point. -/
def pointed : List Char → List Char
  | [] => []
  | '_' :: '_' :: r => '.' :: pointed r
  | c :: r => c :: pointed r

/-- The name in the tree that a variable sets, if it is one of ours. -/
def variableName? (name : String) : Option String :=
  let cs := Text.lower name.toList
  if variablePrefix.isPrefixOf cs then
    some (String.ofList (pointed (cs.drop variablePrefix.length)))
  else none

/-- The value of a variable: a truth value, an integer or a number if its text is one. -/
def variableValue (s : String) : Json :=
  let cs := s.toList
  let w := Text.lower cs
  if w = "true".toList then .bool true
  else if w = "false".toList then .bool false
  else
    match (readInt? cs).bind (within? (-9223372036854775808) 9223372036854775807) with
    | some n => .integer n
    | none =>
      match Binary64.readChars? cs with
      | some x => .real x
      | none => .text s

/-- Set the values that variables name. -/
def overlay (env : List (String × String)) (tree : Json) : Json :=
  putAll (env.filterMap fun v => (variableName? v.1).map fun k => (k, variableValue v.2)) tree

end Payables.Settings
