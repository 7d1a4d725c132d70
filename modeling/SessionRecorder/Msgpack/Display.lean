import SessionRecorder.Msgpack.Basic
import SessionRecorder.Text.Quoted

/-!
MessagePack values as diagnostic text.
-/

namespace SessionRecorder.Msgpack

open Decimal Text

def bytesText (bytes : Bytes) : String :=
  "[" ++ String.intercalate ", " (bytes.map fun b => toString b.toNat) ++ "]"

mutual

/-- The diagnostic text of a value. -/
def display : Msgpack → String
  | .nil => "nil"
  | .bool b => if b then "true" else "false"
  | .int n => toString n.val
  | .float32 x => x.text Layout.plain
  | .float64 x => x.text Layout.plain
  | .str s => quoted s
  | .badStr bytes => bytesText bytes
  | .bin bytes => bytesText bytes
  | .array items => "[" ++ displayItems items ++ "]"
  | .map entries => "\x7b" ++ displayEntries entries ++ "\x7d"
  | .ext type bytes => "[" ++ toString type.toInt ++ ", " ++ bytesText bytes ++ "]"

def displayItems : List Msgpack → String
  | [] => ""
  | [item] => item.display
  | item :: rest => item.display ++ ", " ++ displayItems rest

def displayEntries : List (Msgpack × Msgpack) → String
  | [] => ""
  | [(key, value)] => key.display ++ ": " ++ value.display
  | (key, value) :: rest =>
    key.display ++ ": " ++ value.display ++ ", " ++ displayEntries rest

end

end SessionRecorder.Msgpack
