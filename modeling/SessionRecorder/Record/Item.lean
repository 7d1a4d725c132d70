import SessionRecorder.Catalog
import SessionRecorder.Digest.Sha256
import SessionRecorder.Json.Printer
import SessionRecorder.Record.Envelope
import SessionRecorder.Settings.Basic

/-!
Items of a conversation: what the recorded sessions are read as. An item has an id
that repeats for the same session, label and time, and one part by its kind.
-/

namespace SessionRecorder

namespace Item

def kindTag : UInt64 := 1
def statusTag : UInt64 := 2
def timestampTag : UInt64 := 3
def idTag : UInt64 := 4
def inputTag : UInt64 := 10
def turnTag : UInt64 := 11
def systemTag : UInt64 := 12
def eventTag : UInt64 := 13
def metadataTag : UInt64 := 30

def idText (session label : String) (time : Int64) : String := s!"{session}:{label}:{time.toInt}"

/-- The first 24 hexadecimal digits of the digest of the id text. -/
def id (session label : String) (time : Int64) : String :=
  Text.take 24 (Digest.sha256 (Text.utf8 (idText session label time))).octets.hex

def complete (kind session label : String) (time : Int64)
    (parts : List (UInt64 × Option Msgpack)) : Payload :=
  .ofFields ([
    (kindTag, some (.str kind)),
    (statusTag, some (.str "complete")),
    (timestampTag, some (.sint time)),
    (idTag, some (.str (id session label time)))] ++ parts)

end Item

inductive SystemKind where
  | error
  | lifecycle
  | llm
  | tool
  | info
deriving DecidableEq

namespace SystemKind

def name : SystemKind → String
  | error => "error"
  | lifecycle => "lifecycle"
  | llm => "llm"
  | tool => "tool"
  | info => "info"

/-- The kind of an event by its name, where errors come first. -/
def ofEvent (event : String) : SystemKind :=
  if Text.contains event "error" then error
  else if Text.startsWith event "session:" then lifecycle
  else if Text.startsWith event "llm:" then llm
  else if Text.startsWith event "tool:" then tool
  else info

end SystemKind

namespace Item

def systemKindTag : UInt64 := 1
def systemTitleTag : UInt64 := 2
def systemContentTag : UInt64 := 3

def systemPart (kind : SystemKind) (title content : String) : Msgpack :=
  (Payload.ofList [
    (systemKindTag, .str kind.name),
    (systemTitleTag, .str title),
    (systemContentTag, .str content)]).toMap

/-- The item of an event, which holds the event's envelope. -/
def ofEvent (event : String) (data : Json) (l : Lineage) (time : Int64) : Payload :=
  let title := match l.agent with
    | some agent => s!"[{agent}] {event}"
    | none => event
  let content := match Envelope.eventData data with
    | some data => data.compact
    | none => "\x7b\x7d"
  complete "system" l.sessionId event time [
    (systemTag, some (systemPart (.ofEvent event) title content)),
    (eventTag, some (Envelope.ofEvent event data l time).toMap)]

end Item

structure Record where
  type : RecordType
  payload : Payload

namespace Record

def ofEvent (shape : RecordShape) (event : String) (data : Json) (l : Lineage) (time : Int64) :
    Record :=
  match shape with
  | .envelope => ⟨Catalog.recordType event, Envelope.ofEvent event data l time⟩
  | .conversationItem => ⟨.conversationItem, Item.ofEvent event data l time⟩

end Record

end SessionRecorder
