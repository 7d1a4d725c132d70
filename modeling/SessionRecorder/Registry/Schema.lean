import SessionRecorder.Json.Basic

/-!
Descriptions of payloads: which tags they have, what these are called and what
stands under them.
-/

namespace SessionRecorder

mutual

inductive Shape where
  | string
  | u64
  | bool
  | anyMap
  | map (fields : List TaggedField)
  | array (items : Shape)

inductive TaggedField where
  | mk (tag : UInt64) (name : String) (shape : Shape) (optional : Bool)

end

namespace TaggedField

def tag : TaggedField → UInt64
  | mk tag _ _ _ => tag

def name : TaggedField → String
  | mk _ name _ _ => name

def shape : TaggedField → Shape
  | mk _ _ shape _ => shape

def optional : TaggedField → Bool
  | mk _ _ _ optional => optional

end TaggedField

mutual

/-- The members by which a shape is written. -/
def Shape.members : Shape → List (String × Json)
  | .string => [("type", .string "string")]
  | .u64 => [("type", .string "u64")]
  | .bool => [("type", .string "bool")]
  | .anyMap => [("type", .string "map")]
  | .map fields => [("type", .string "map"), ("fields", .ofMembers (fieldMembers fields))]
  | .array items => [("type", .string "array"), ("items", .ofMembers items.members)]

def fieldMembers : List TaggedField → List (String × Json)
  | [] => []
  | .mk tag name shape optional :: rest =>
    (toString tag.toNat, .ofMembers (("name", .string name) :: shape.members ++
      (if optional then [("optional", .bool true)] else []))) :: fieldMembers rest

end

end SessionRecorder
