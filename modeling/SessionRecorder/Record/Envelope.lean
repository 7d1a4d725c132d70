import SessionRecorder.Lineage
import SessionRecorder.Msgpack.Json
import SessionRecorder.Payload

/-!
The flat record of an event: what happened, in which session and when, and the
event's data without what the record already says.
-/

namespace SessionRecorder

/-- The entries whose value is there. -/
def Payload.ofFields (fields : List (UInt64 × Option Msgpack)) : Payload :=
  .ofList (fields.filterMap fun (tag, value) => value.map (tag, ·))

theorem Payload.entries_ofFields {fields : List (UInt64 × Option Msgpack)}
    (h : (fields.map (·.1)).Pairwise fun a b => compare a b = .lt) :
    (ofFields fields).entries = fields.filterMap fun (tag, value) => value.map (tag, ·) := by
  apply Assoc.ofList_of_ascending
  rw [Assoc.Ascending, List.pairwise_filterMap]
  refine (List.pairwise_map.1 h).imp ?_
  intro a b hab x hx y hy
  simp only [Option.map_eq_some_iff] at hx hy
  obtain ⟨_, _, rfl⟩ := hx
  obtain ⟨_, _, rfl⟩ := hy
  exact hab

namespace Envelope

def eventTag : UInt64 := 1
def sessionTag : UInt64 := 2
def parentTag : UInt64 := 3
def timestampTag : UInt64 := 4
def agentTag : UInt64 := 5
def sizeTag : UInt64 := 6
def dataTag : UInt64 := 7
def rootTag : UInt64 := 8

/-- The keys of event data that the envelope holds under tags of its own. -/
def ownKeys : List String := ["session_id", "parent_id", "ts"]

/-- The data of an event to record: an object without the envelope's own keys,
nothing if that leaves it empty, and other data but null as it is. -/
def eventData : Json → Option Json
  | .null => none
  | .object members =>
    match members.filter fun (key, _) => !ownKeys.contains key with
    | [] => none
    | rest => some (.object rest)
  | data => some data

def withSize (size : UInt64) (event : String) (data : Json) (l : Lineage) (time : Int64) :
    Payload :=
  .ofFields [
    (eventTag, some (.str event)),
    (sessionTag, some (.str l.sessionId)),
    (parentTag, l.parentId.map .str),
    (timestampTag, some (.sint time)),
    (agentTag, l.agent.map .str),
    (sizeTag, some (.uint size)),
    (dataTag, (eventData data).map .ofJson),
    (rootTag, some (.str l.rootId))]

/-- The envelope of an event. Its size is that of the envelope with size zero. -/
def ofEvent (event : String) (data : Json) (l : Lineage) (time : Int64) : Payload :=
  withSize (.ofNat (withSize 0 event data l time).serialize.length) event data l time

end Envelope

end SessionRecorder
