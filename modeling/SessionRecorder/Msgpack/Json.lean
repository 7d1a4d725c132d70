import SessionRecorder.Json.Basic
import SessionRecorder.Msgpack.Display

/-!
JSON data as MessagePack values and back. Every JSON value has an image; on the
way back octets become lists of numbers and other keys than strings are written
as diagnostic text.
-/

namespace SessionRecorder

mutual

def Msgpack.ofJson : Json → Msgpack
  | .null => .nil
  | .bool b => .bool b
  | .int n => .int n
  | .double x => .float64 x
  | .string s => .str s
  | .array items => .array (Msgpack.ofJsonItems items)
  | .object members => .map (Msgpack.ofJsonMembers members)

def Msgpack.ofJsonItems : List Json → List Msgpack
  | [] => []
  | item :: rest => Msgpack.ofJson item :: Msgpack.ofJsonItems rest

def Msgpack.ofJsonMembers : List (String × Json) → List (Msgpack × Msgpack)
  | [] => []
  | (key, value) :: rest => (.str key, Msgpack.ofJson value) :: Msgpack.ofJsonMembers rest

end

/-- A number in JSON, null where JSON has none. -/
def Json.ofDouble (x : Double) : Json := if x.isFinite then .double x else .null

def Json.ofBytes (bytes : Bytes) : Json := .array (bytes.map fun b => .int (.ofUInt8 b))

def Msgpack.jsonKey : Msgpack → String
  | .str s => s
  | key => key.display

mutual

/-- The JSON value of a value; of equal keys the last counts. -/
def Msgpack.toJson : Msgpack → Json
  | .nil => .null
  | .bool b => .bool b
  | .int n => .int n
  | .float32 x => Json.ofDouble (.ofSingle x)
  | .float64 x => Json.ofDouble x
  | .str s => .string s
  | .badStr _ => .string ""
  | .bin bytes => Json.ofBytes bytes
  | .array items => .array (Msgpack.toJsonItems items)
  | .map entries => Json.ofMembers (Msgpack.toJsonMembers entries)
  | .ext _ bytes => Json.ofBytes bytes

def Msgpack.toJsonItems : List Msgpack → List Json
  | [] => []
  | item :: rest => item.toJson :: Msgpack.toJsonItems rest

def Msgpack.toJsonMembers : List (Msgpack × Msgpack) → List (String × Json)
  | [] => []
  | (key, value) :: rest => (key.jsonKey, value.toJson) :: Msgpack.toJsonMembers rest

end

end SessionRecorder
