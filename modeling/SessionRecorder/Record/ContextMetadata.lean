import SessionRecorder.Record.Identity
import SessionRecorder.Record.Item
import SessionRecorder.Text.Casing

/-!
The first item of a context. It names the context and says where it comes from.
-/

namespace SessionRecorder

def clientTag (project rootSession : String) : String :=
  s!"amplifier - {project} - {Text.take 12 rootSession}"

structure ContextMetadata where
  label : String
  clientTag : String
  project : String
  bundle : String
  parentContext : Option UInt64
  rootContext : Option UInt64

namespace ContextMetadata

def clientTagTag : UInt64 := 1
def titleTag : UInt64 := 2
def labelsTag : UInt64 := 3
def provenanceTag : UInt64 := 10

/-- The title of a context: the project, if it has a name, the label and the first
characters of the session id. -/
def title (project label session : String) : String :=
  if project = "" then s!"Amplifier {label}: {Text.take 12 session}"
  else s!"Amplifier {project} {label}: {Text.take 12 session}"

def labels (m : ContextMetadata) : List String :=
  ["amplifier", Text.lower m.label] ++ (Provenance.nonEmpty m.project).toList

def origin (m : ContextMetadata) (l : Lineage) (time : Int64) : Origin where
  sessionId := l.sessionId
  parentContext := m.parentContext
  rootContext := m.rootContext
  spawnReason := l.spawnReason
  agent := l.agent
  bundle := some m.bundle
  capturedAt := time

def part (m : ContextMetadata) (l : Lineage) (i : Identity) (time : Int64) : Msgpack :=
  (Payload.ofList [
    (clientTagTag, .str m.clientTag),
    (titleTag, .str (title m.project m.label l.sessionId)),
    (labelsTag, .array (m.labels.map .str)),
    (provenanceTag, (Provenance.payload i (m.origin l time)).toMap)]).toMap

def item (m : ContextMetadata) (l : Lineage) (i : Identity) (time : Int64) : Payload :=
  Item.complete "system" l.sessionId s!"context_metadata_{Text.lower m.label}" time [
    (Item.systemTag, some (Item.systemPart .info s!"Context: {m.label}"
      s!"Amplifier session {l.sessionId}")),
    (Item.metadataTag, some (m.part l i time))]

end ContextMetadata

end SessionRecorder
