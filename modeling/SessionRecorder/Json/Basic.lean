import SessionRecorder.WordInt
import SessionRecorder.Decimal.Double
import SessionRecorder.Assoc

/-!
JSON data. The members of an object are kept in ascending order of their keys,
each key once; whole numbers and doubles are different values.
-/

namespace SessionRecorder

inductive Json where
  | null
  | bool (b : Bool)
  | int (n : WordInt)
  | double (x : Double)
  | string (s : String)
  | array (items : List Json)
  | object (members : List (String × Json))

namespace Json

instance : Inhabited Json := ⟨.null⟩

def isNull : Json → Bool
  | .null => true
  | _ => false

def get? (key : String) : Json → Option Json
  | .object members => Assoc.find? key members
  | _ => none

/-- The value under a key of an object, unless it is null. -/
def present? (key : String) (data : Json) : Option Json :=
  (data.get? key).filter (!·.isNull)

def asString? : Json → Option String
  | .string s => some s
  | _ => none

/-- An object with the given members; of two with one key the last counts. -/
def ofMembers (members : List (String × Json)) : Json := .object (Assoc.ofList members)

mutual

/-- Whether every object has ascending keys and every double is finite, as in
all data that was read from text. -/
def WellFormed : Json → Prop
  | .double x => x.isFinite = true
  | .array items => WellFormedItems items
  | .object members => Assoc.Ascending members ∧ WellFormedMembers members
  | _ => True

def WellFormedItems : List Json → Prop
  | [] => True
  | item :: rest => item.WellFormed ∧ WellFormedItems rest

def WellFormedMembers : List (String × Json) → Prop
  | [] => True
  | (_, value) :: rest => value.WellFormed ∧ WellFormedMembers rest

end

end Json

end SessionRecorder
