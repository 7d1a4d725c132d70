import SessionRecorder.WordInt
import SessionRecorder.Decimal.Double
import SessionRecorder.Text.Utf8

/-!
MessagePack values. A map keeps its entries in order, equal keys included, and
floats keep their width and bits.
-/

namespace SessionRecorder

inductive Msgpack where
  | nil
  | bool (b : Bool)
  | int (n : WordInt)
  | float32 (x : Single)
  | float64 (x : Double)
  | str (s : String)
  /-- A string whose octets are not UTF-8. -/
  | badStr (bytes : Bytes)
  | bin (bytes : Bytes)
  | array (items : List Msgpack)
  | map (entries : List (Msgpack × Msgpack))
  | ext (type : Int8) (bytes : Bytes)

namespace Msgpack

instance : Inhabited Msgpack := ⟨.nil⟩

def uint (n : UInt64) : Msgpack := .int (.ofUInt64 n)

def sint (n : Int64) : Msgpack := .int (.ofInt64 n)

def asUInt? : Msgpack → Option UInt64
  | .int n => n.toUInt64?
  | _ => none

@[simp] theorem asUInt?_uint (n : UInt64) : (uint n).asUInt? = some n := by
  simp [asUInt?, uint]

end Msgpack

end SessionRecorder
