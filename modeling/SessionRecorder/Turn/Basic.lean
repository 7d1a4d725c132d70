import SessionRecorder.Record.Item
import SessionRecorder.Turn.Usage

/-!
A turn of a conversation: the prompt, what was said and which tools were called,
and the conversation items that record it.
-/

namespace SessionRecorder

structure ToolCall where
  name : String
  input : String
  id : Option String
  result : Option String := none
  error : Option String := none
  done : Bool := false
deriving DecidableEq

structure TurnMetrics where
  input : UInt64
  cacheRead : UInt64
  cacheCreation : UInt64
  totalInput : UInt64
  output : UInt64
  total : UInt64
  reasoning : UInt64
  model : String
  provider : String
  /-- Milliseconds from the request to the response. -/
  duration : Option UInt64
deriving DecidableEq

structure Turn where
  prompt : Option String := none
  texts : List String := []
  tools : List ToolCall := []
  metrics : Option TurnMetrics := none
  agent : Option String := none
  finishReason : Option String := none
deriving DecidableEq

namespace ToolCall

def idTag : UInt64 := 1
def nameTag : UInt64 := 2
def inputTag : UInt64 := 3
def statusTag : UInt64 := 4
def outcomeTag : UInt64 := 5

def status (t : ToolCall) : String :=
  if t.done then (if t.error.isSome then "error" else "complete") else "pending"

/-- The text that a call left, and whether it is an error. -/
def outcome (t : ToolCall) : Option (String × Bool) :=
  match t.error, t.result with
  | some e, _ => some (e, true)
  | none, some r => some (r, false)
  | none, none => none

def outcomeValue (text : String) (isError : Bool) : Msgpack :=
  .map [(.uint 1, .str text), (.uint 2, .bool isError)]

def payload (t : ToolCall) : Payload :=
  .ofFields [
    (idTag, t.id.map .str),
    (nameTag, some (.str t.name)),
    (inputTag, some (.str t.input)),
    (statusTag, some (.str t.status)),
    (outcomeTag, t.outcome.map fun (text, isError) => outcomeValue text isError)]

end ToolCall

namespace TurnMetrics

/-- The measures in a report of a provider. The event names the model, or else the
report does. -/
def ofUsage (u : Usage) (model provider : Option String) (duration : Option UInt64) :
    TurnMetrics where
  input := u.input
  cacheRead := u.cacheRead
  cacheCreation := u.cacheCreation
  totalInput := u.totalInput
  output := u.output
  total := addCounts u.totalInput u.output
  reasoning := u.reasoning
  model := (model.or u.model).getD ""
  provider := provider.getD ""
  duration

def inputTag : UInt64 := 1
def outputTag : UInt64 := 2
def totalTag : UInt64 := 3
def cacheReadTag : UInt64 := 4
def cacheCreationTag : UInt64 := 5
def totalInputTag : UInt64 := 6
def reasoningTag : UInt64 := 7
def durationTag : UInt64 := 8
def modelTag : UInt64 := 9
def providerTag : UInt64 := 10

def textValue (s : String) : Option Msgpack := if s = "" then none else some (.str s)

def payload (m : TurnMetrics) : Payload :=
  .ofFields [
    (inputTag, some (.uint m.input)),
    (outputTag, some (.uint m.output)),
    (totalTag, some (.uint m.total)),
    (cacheReadTag, some (.uint m.cacheRead)),
    (cacheCreationTag, some (.uint m.cacheCreation)),
    (totalInputTag, some (.uint m.totalInput)),
    (reasoningTag, some (.uint m.reasoning)),
    (durationTag, m.duration.map .uint),
    (modelTag, textValue m.model),
    (providerTag, textValue m.provider)]

end TurnMetrics

namespace Turn

def hasAnswer (t : Turn) : Bool := !t.texts.isEmpty || !t.tools.isEmpty

def hasData (t : Turn) : Bool := t.prompt.isSome || t.hasAnswer

def promptTextTag : UInt64 := 1

def textTag : UInt64 := 1
def toolsTag : UInt64 := 2
def metricsTag : UInt64 := 3
def agentTag : UInt64 := 4
def finishReasonTag : UInt64 := 5

def promptPart (prompt : String) : Msgpack := .map [(.uint promptTextTag, .str prompt)]

def answerPart (t : Turn) : Msgpack :=
  (Payload.ofFields [
    (textTag, TurnMetrics.textValue (String.join t.texts)),
    (toolsTag, if t.tools.isEmpty then none else some (.array (t.tools.map (·.payload.toMap)))),
    (metricsTag, t.metrics.map (·.payload.toMap)),
    (agentTag, t.agent.map .str),
    (finishReasonTag, t.finishReason.map .str)]).toMap

/-- The items of a turn: what the user asked, then what the assistant answered. -/
def items (session : String) (time : Int64) (t : Turn) : List Payload :=
  let asked := t.prompt.map fun prompt =>
    Item.complete "user_input" session "user_input" time [
      (Item.inputTag, some (promptPart prompt))]
  let answered :=
    if t.hasAnswer then
      some (Item.complete "assistant_turn" session "assistant_turn" time [
        (Item.turnTag, some t.answerPart)])
    else none
  asked.toList ++ answered.toList

end Turn

end SessionRecorder
