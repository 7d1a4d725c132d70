import SessionRecorder.Assoc
import SessionRecorder.Msgpack.Writer
import SessionRecorder.Msgpack.Reader
import SessionRecorder.Msgpack.Display
import SessionRecorder.Digest.Blake3
import SessionRecorder.Wire.Error

/-!
Payloads: values under numeric tags. Their octets depend on the tags and values
alone, not on the order in which the tags were given.
-/

namespace SessionRecorder

/-- Values under tags, in ascending order of the tags. -/
@[ext] structure Payload where
  entries : List (UInt64 × Msgpack)
  ascending : Assoc.Ascending entries

namespace Payload

def empty : Payload := ⟨[], List.Pairwise.nil⟩

instance : Inhabited Payload := ⟨empty⟩

def insert (p : Payload) (tag : UInt64) (value : Msgpack) : Payload :=
  ⟨Assoc.insert tag value p.entries, Assoc.ascending_insert p.ascending⟩

/-- The given entries; of two with one tag the last counts. -/
def ofList (entries : List (UInt64 × Msgpack)) : Payload :=
  ⟨Assoc.ofList entries, Assoc.ascending_ofList entries⟩

def get? (p : Payload) (tag : UInt64) : Option Msgpack := Assoc.find? tag p.entries

def tags (p : Payload) : List UInt64 := p.entries.map (·.1)

def toMap (p : Payload) : Msgpack :=
  .map (p.entries.map fun (tag, value) => (Msgpack.uint tag, value))

def serialize (p : Payload) : Bytes := p.toMap.write

def contentHash (bytes : Bytes) : Digest.Hash := Digest.blake3 bytes

def ofEntries? : List (Msgpack × Msgpack) → Except WireError (List (UInt64 × Msgpack))
  | [] => .ok []
  | (key, value) :: rest =>
    match key.asUInt? with
    | some tag => (ofEntries? rest).map ((tag, value) :: ·)
    | none => .error (.invalidPayload s!"non-integer tag: {key.display}")

/-- The payload at the start of the octets; what follows it is ignored. -/
def deserialize (bs : Bytes) : Except WireError Payload :=
  match Msgpack.ofBytes bs with
  | .error e => .error (.decode e.message)
  | .ok (.map entries) => (ofEntries? entries).map ofList
  | .ok _ => .error (.invalidPayload "top level is not a map")

@[simp] theorem get?_insert_self (p : Payload) (tag : UInt64) (value : Msgpack) :
    (p.insert tag value).get? tag = some value :=
  Assoc.find?_insert_self tag value p.entries

theorem get?_insert_of_ne (p : Payload) {tag other : UInt64} (h : tag ≠ other)
    (value : Msgpack) : (p.insert tag value).get? other = p.get? other :=
  Assoc.find?_insert_of_ne h value p.entries

theorem ofList_entries (p : Payload) : ofList p.entries = p :=
  Payload.ext (Assoc.ofList_of_ascending p.ascending)

end Payload

end SessionRecorder
