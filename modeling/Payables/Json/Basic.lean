/-
# Data exchange values

The values that records are exchanged as.  Integers and other numbers are kept apart: a line
number is never read from `1.0`, while a percentage may be written either way.
-/
import Payables.Binary64.Basic

namespace Payables

/-- A value of the exchange format. -/
inductive Json where
  | null
  | bool (b : Bool)
  | integer (n : Int)
  | real (x : Binary64)
  | text (s : String)
  | array (items : List Json)
  | object (fields : List (String × Json))

namespace Json

/-- The fields of an object with one of them set: replaced where it stands, or else added at the
end. -/
def setField (key : String) (v : Json) : List (String × Json) → List (String × Json)
  | [] => [(key, v)]
  | (k, w) :: r => if k = key then (key, v) :: r else (k, w) :: setField key v r

/-- The first field of a name. -/
def findField (key : String) (fields : List (String × Json)) : Option Json :=
  (fields.find? fun f => f.1 = key).map Prod.snd

/-- A field of an object; other values have none. -/
def field? (key : String) : Json → Option Json
  | object fields => findField key fields
  | _ => none

/-- A field of an object, where a missing one counts as null. -/
def fieldOrNull (j : Json) (key : String) : Json := (j.field? key).getD null

/-- The value is null. -/
def isNull : Json → Bool
  | null => true
  | _ => false

@[simp] theorem findField_setField_self (key : String) (v : Json) (fields : List (String × Json)) :
    findField key (setField key v fields) = some v := by
  induction fields with
  | nil => simp [setField, findField]
  | cons f r ih =>
    obtain ⟨k, w⟩ := f
    by_cases h : k = key
    · simp [setField, findField, h]
    · simpa [setField, findField, h] using ih

theorem findField_setField_of_ne {key other : String} (h : key ≠ other) (v : Json)
    (fields : List (String × Json)) :
    findField other (setField key v fields) = findField other fields := by
  induction fields with
  | nil => simp [setField, findField, h]
  | cons f r ih =>
    obtain ⟨k, w⟩ := f
    by_cases hk : k = key
    · subst hk
      simp [setField, findField, h]
    · by_cases ho : k = other
      · subst ho
        simp [setField, findField, hk]
      · simpa [setField, findField, hk, ho] using ih

end Json
end Payables
