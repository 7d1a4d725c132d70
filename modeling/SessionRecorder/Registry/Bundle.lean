import SessionRecorder.Catalog
import SessionRecorder.Json.Printer
import SessionRecorder.Registry.Schema

/-!
The bundle that tells a store what the recorded types mean.
-/

namespace SessionRecorder

namespace Bundle

def id : String := "amplifier.events-v1"

def required (tag : UInt64) (name : String) (shape : Shape) : TaggedField :=
  .mk tag name shape false

def optional (tag : UInt64) (name : String) (shape : Shape) : TaggedField :=
  .mk tag name shape true

def envelope : List TaggedField := [
  required 1 "event_name" .string,
  required 2 "session_id" .string,
  optional 3 "parent_session_id" .string,
  required 4 "timestamp_ms" .u64,
  optional 5 "agent_name" .string,
  required 6 "payload_bytes" .u64,
  optional 7 "data" .anyMap,
  optional 8 "root_session_id" .string]

def toolOutcome : List TaggedField := [
  required 1 "content" .string,
  required 2 "is_error" .bool]

def toolCall : List TaggedField := [
  optional 1 "id" .string,
  required 2 "name" .string,
  required 3 "args" .string,
  required 4 "status" .string,
  optional 5 "result" (.map toolOutcome)]

def metrics : List TaggedField := [
  required 1 "input_tokens" .u64,
  required 2 "output_tokens" .u64,
  required 3 "total_tokens" .u64,
  required 4 "cache_read_input_tokens" .u64,
  required 5 "cache_creation_input_tokens" .u64,
  required 6 "total_input_tokens" .u64,
  required 7 "reasoning_tokens" .u64,
  optional 8 "duration_ms" .u64,
  required 9 "model" .string,
  required 10 "provider" .string]

def assistantTurn : List TaggedField := [
  optional 1 "text" .string,
  optional 2 "tool_calls" (.array (.map toolCall)),
  optional 3 "metrics" (.map metrics),
  optional 4 "agent" .string,
  optional 5 "finish_reason" .string]

def systemPart : List TaggedField := [
  required 1 "kind" .string,
  required 2 "title" .string,
  required 3 "content" .string]

def provenance : List TaggedField := [
  optional 1 "parent_context_id" .u64,
  optional 2 "spawn_reason" .string,
  optional 3 "root_context_id" .u64,
  optional 10 "trace_id" .string,
  optional 11 "span_id" .string,
  optional 20 "on_behalf_of" .string,
  optional 21 "on_behalf_of_source" .string,
  optional 40 "service_name" .string,
  optional 41 "service_version" .string,
  optional 42 "service_instance_id" .string,
  optional 43 "process_pid" .u64,
  optional 44 "process_owner" .string,
  optional 45 "host_name" .string,
  optional 46 "host_arch" .string,
  optional 60 "env" .anyMap,
  optional 70 "sdk_name" .string,
  optional 80 "captured_at" .u64]

def contextMetadata : List TaggedField := [
  required 1 "client_tag" .string,
  required 2 "title" .string,
  optional 3 "labels" (.array .string),
  optional 10 "provenance" (.map provenance)]

def conversationItem : List TaggedField := [
  required 1 "item_type" .string,
  required 2 "status" .string,
  required 3 "timestamp" .u64,
  required 4 "id" .string,
  optional 10 "user_input" (.map [required 1 "text" .string]),
  optional 11 "assistant_turn" (.map assistantTurn),
  optional 12 "system" (.map systemPart),
  optional 13 "event" (.map envelope),
  optional 30 "context_metadata" (.map contextMetadata)]

def types : List (RecordType × List TaggedField) :=
  (RecordType.conversationItem, conversationItem) ::
    EventClass.all.map fun c => (c.recordType, envelope)

def typeJson (t : RecordType) (fields : List TaggedField) : Json :=
  let version := Json.object [("fields", .ofMembers (fieldMembers fields))]
  .object [("versions", .object [(toString t.version.toNat, version)])]

def typesJson : Json := .ofMembers (types.map fun (t, fields) => (t.id, typeJson t fields))

/-- The document that is published. -/
def document : Json :=
  .object [("bundle_id", .string id), ("registry_version", .int (.ofUInt8 1)),
    ("types", typesJson)]

end Bundle

end SessionRecorder
