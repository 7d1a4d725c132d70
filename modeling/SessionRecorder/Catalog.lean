import SessionRecorder.Text.Search

/-!
The events of a session by name, the types their records have in the store, and
the families of events that come in variants of different richness.
-/

namespace SessionRecorder

structure RecordType where
  id : String
  version : UInt32
deriving DecidableEq

/-- The type of turns, of context metadata and of events in conversation form. -/
def RecordType.conversationItem : RecordType := ⟨"cxdb.ConversationItem", 3⟩

inductive EventClass where
  | session
  | prompt
  | plan
  | provider
  | contentBlock
  | thinking
  | tool
  | context
  | orchestrator
  | delegation
  | approval
  | cancel
  | notification
  | artifact
  | generic
deriving DecidableEq

namespace EventClass

/-- Every class, that of unknown events last. -/
def all : List EventClass := [
  session, prompt, plan, provider, contentBlock, thinking, tool, context, orchestrator,
  delegation, approval, cancel, notification, artifact, generic]

def name : EventClass → String
  | session => "Session"
  | prompt => "Prompt"
  | plan => "Plan"
  | provider => "Provider"
  | contentBlock => "ContentBlock"
  | thinking => "Thinking"
  | tool => "Tool"
  | context => "Context"
  | orchestrator => "Orchestrator"
  | delegation => "Delegation"
  | approval => "Approval"
  | cancel => "Cancel"
  | notification => "Notification"
  | artifact => "Artifact"
  | generic => "Generic"

def recordType (c : EventClass) : RecordType := ⟨s!"amplifier.{c.name}Event", 1⟩

end EventClass

namespace Catalog

/-- The events that every session emits. -/
def canonical : List (String × EventClass) := [
  ("session:start", .session),
  ("session:start:debug", .session),
  ("session:start:raw", .session),
  ("session:end", .session),
  ("session:fork", .session),
  ("session:fork:debug", .session),
  ("session:fork:raw", .session),
  ("session:resume", .session),
  ("session:resume:debug", .session),
  ("session:resume:raw", .session),
  ("prompt:submit", .prompt),
  ("prompt:complete", .prompt),
  ("plan:start", .plan),
  ("plan:end", .plan),
  ("provider:request", .provider),
  ("provider:response", .provider),
  ("provider:error", .provider),
  ("llm:request", .provider),
  ("llm:request:debug", .provider),
  ("llm:request:raw", .provider),
  ("llm:response", .provider),
  ("llm:response:debug", .provider),
  ("llm:response:raw", .provider),
  ("content_block:start", .contentBlock),
  ("content_block:delta", .contentBlock),
  ("content_block:end", .contentBlock),
  ("thinking:delta", .thinking),
  ("thinking:final", .thinking),
  ("tool:pre", .tool),
  ("tool:post", .tool),
  ("tool:error", .tool),
  ("context:pre_compact", .context),
  ("context:post_compact", .context),
  ("context:compaction", .context),
  ("context:include", .context),
  ("orchestrator:complete", .orchestrator),
  ("execution:start", .orchestrator),
  ("execution:end", .orchestrator),
  ("approval:required", .approval),
  ("approval:granted", .approval),
  ("approval:denied", .approval),
  ("policy:violation", .approval),
  ("cancel:requested", .cancel),
  ("cancel:completed", .cancel),
  ("user:notification", .notification),
  ("artifact:write", .artifact),
  ("artifact:read", .artifact)]

/-- The events of task delegation, which the session does not announce. -/
def delegated : List (String × EventClass) := [
  ("task:agent_spawned", .delegation),
  ("task:agent_completed", .delegation),
  ("task:agent_resumed", .delegation)]

def canonicalEvents : List String := canonical.map (·.1)

def moduleEvents : List String := delegated.map (·.1)

/-- Streaming events that are too frequent to be recorded. -/
def defaultExcludes : List String := ["content_block:delta", "thinking:delta"]

def classOf (event : String) : EventClass :=
  ((canonical ++ delegated).lookup event).getD .generic

def recordType (event : String) : RecordType := (classOf event).recordType

/-- The base names of the events that have variants. -/
def families : List String := [
  "session:start", "session:fork", "session:resume", "llm:request", "llm:response"]

/-- The name without the mark of its variant. -/
def base (event : String) : String :=
  match Text.withoutEnd? ":raw" event with
  | some front => front
  | none => (Text.withoutEnd? ":debug" event).getD event

def hasVariants (event : String) : Bool := families.contains (base event)

/-- How rich a variant is: two for raw, one for debug, zero for the base. -/
def rank (event : String) : Nat :=
  if Text.endsWith event ":raw" then 2
  else if Text.endsWith event ":debug" then 1
  else 0

end Catalog

end SessionRecorder
