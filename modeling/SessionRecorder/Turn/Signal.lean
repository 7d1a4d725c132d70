import SessionRecorder.Json.Printer
import SessionRecorder.Text.Search
import SessionRecorder.Turn.Usage

/-!
What the events of a session mean for the turn in progress. Data of any shape is
taken; an event whose data says nothing gives no signal.
-/

namespace SessionRecorder

open Json

/-- A block of content: bare text, or text of a kind. -/
inductive BlockContent where
  | plain (text : String)
  | structured (kind text : Option String)
deriving DecidableEq

namespace BlockContent

def optionalText (key : String) (data : Json) : Except DecodeError (Option String) :=
  match data.get? key with
  | none => .ok none
  | some value => readOption readString value

def ofJson (data : Json) : Except DecodeError BlockContent :=
  match data with
  | .string s => .ok (.plain s)
  | .object _ =>
    match optionalText "type" data, optionalText "text" data with
    | .ok kind, .ok text => .ok (.structured kind text)
    | _, _ => .error (.noVariant "BlockContent")
  | _ => .error (.noVariant "BlockContent")

/-- The text of a block, unless it is of another kind than text. -/
def text? : BlockContent → Option String
  | .plain text => some text
  | .structured kind text => if kind.all (· == "text") then text else none

end BlockContent

inductive Signal where
  | promptSubmitted (prompt : String)
  | toolStarted (name input : String) (id : Option String)
  | toolFinished (name : String) (id result error : Option String)
  | textBlock (text : String)
  | requestSent
  | responseReceived (usage : Option Usage) (model provider finishReason : Option String)
  | executionEnded
deriving DecidableEq

namespace Signal

def events : List String := [
  "prompt:submit", "content_block:end", "tool:pre", "tool:post", "tool:error",
  "provider:request", "provider:response", "execution:end"]

/-- The most characters kept of a tool's input. -/
def inputLimit : Nat := 200

/-- The most characters kept of a tool's result or error. -/
def resultLimit : Nat := 500

/-- A text as it is, and other data as JSON. -/
def render : Json → String
  | .string s => s
  | data => data.compact

/-- The rendered value under a key, unless it is missing, null or empty. -/
def rendered? (key : String) (data : Json) : Option String :=
  ((data.present? key).map render).filter (· ≠ "")

def callId? (data : Json) : Option String :=
  (rendered? "tool_call_id" data).or (rendered? "call_id" data)

def toolName (data : Json) : String := (rendered? "tool_name" data).getD "unknown"

def blockText? (data : Json) : Option String :=
  if (data.get? "block_type").bind asString? = some "text" then do
    let block ← data.present? "block"
    match BlockContent.ofJson block with
    | .ok block => block.text?
    | .error _ => none
  else none

/-- The usage in a response: an object that is not empty. -/
def usage? (data : Json) : Option Usage :=
  match data.get? "usage" with
  | some (.object (m :: rest)) => (Usage.ofJson (.object (m :: rest))).toOption
  | _ => none

def ofEvent? (event : String) (data : Json) : Option Signal :=
  match event with
  | "prompt:submit" => (data.present? "prompt").map fun p => promptSubmitted (render p)
  | "tool:pre" =>
    let input := ((data.present? "tool_input").map render).getD "\x7b\x7d"
    some (toolStarted (toolName data) (Text.take inputLimit input) (callId? data))
  | "tool:post" =>
    let kept (key : String) := (data.present? key).map fun v => Text.take resultLimit (render v)
    some (toolFinished (toolName data) (callId? data) (kept "result") (kept "error"))
  | "tool:error" =>
    let error := ((data.present? "error").or (data.present? "message")).map render
    some (toolFinished (toolName data) (callId? data) none
      (some (Text.take resultLimit (error.getD "tool error"))))
  | "content_block:end" => (blockText? data).map textBlock
  | "provider:request" => some requestSent
  | "provider:response" =>
    some (responseReceived (usage? data) (rendered? "model" data) (rendered? "provider" data)
      ((rendered? "finish_reason" data).or (rendered? "stop_reason" data)))
  | "execution:end" => some executionEnded
  | _ => none

end Signal

end SessionRecorder
