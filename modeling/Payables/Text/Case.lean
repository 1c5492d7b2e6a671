/-
# Upper and lower case

Whole words are mapped character by character, with one exception: a capital sigma that ends a
word becomes the final form of the small letter.
-/
import Payables.Text.CaseTables

namespace Payables.Text

/-- The character that the first run to hold `c` maps it to, or `c` itself. -/
def shiftCase (runs : List CaseRun) (c : Char) : Char :=
  match runs.find? fun r => r.has c.toNat with
  | some r => Char.ofNat ((c.toNat : Int) + r.shift).toNat
  | none => c

/-- A character under a case mapping: its expansion, or else a single character. -/
def mapCase (expansions : List (Nat × List Nat)) (runs : List CaseRun) (c : Char) : List Char :=
  match expansions.lookup c.toNat with
  | some ns => ns.map Char.ofNat
  | none => [shiftCase runs c]

/-- The upper-case form of a character. -/
def upperChar (c : Char) : List Char := mapCase upperExpansions upperRuns c

/-- The lower-case form of a character, whatever stands around it. -/
def lowerChar (c : Char) : List Char := mapCase lowerExpansions lowerRuns c

/-- A text in upper case. -/
def upper (cs : List Char) : List Char := cs.flatMap upperChar

/-- A character with a case. -/
def isCased (c : Char) : Bool := casedRanges.hasChar c

/-- A character that is passed over when the neighbours of a sigma are looked at. -/
def isCaseIgnorable (c : Char) : Bool := caseIgnorableRanges.hasChar c

/-- The first character that is not passed over has a case. -/
def startsCased (cs : List Char) : Bool :=
  match cs.dropWhile isCaseIgnorable with
  | c :: _ => isCased c
  | [] => false

/-- The capital sigma. -/
def sigma : Char := '\u03a3'

/-- The small sigma at the end of a word. -/
def finalSigma : Char := '\u03c2'

/-- Lower case, with `before` the characters already passed, the latest first. -/
def lowerFrom : List Char → List Char → List Char
  | _, [] => []
  | before, c :: r =>
    (if c = sigma && startsCased before && !startsCased r then [finalSigma] else lowerChar c)
      ++ lowerFrom (c :: before) r

/-- A text in lower case. -/
def lower (cs : List Char) : List Char := lowerFrom [] cs

end Payables.Text
