import SessionRecorder.Turn.Basic
import SessionRecorder.Turn.Signal

/-!
The turn in progress. Signals add to it; a flush takes it out and starts the next.
Times are readings of a steady clock, in milliseconds.
-/

namespace SessionRecorder

def updateFirst {α : Type} (p : α → Bool) (f : α → α) : List α → List α
  | [] => []
  | x :: rest => if p x then f x :: rest else x :: updateFirst p f rest

def updateLast {α : Type} (p : α → Bool) (f : α → α) (xs : List α) : List α :=
  (updateFirst p f xs.reverse).reverse

structure Accumulator where
  agent : Option String
  current : Turn := {}
  /-- Whether execution has ended and no prompt has come since. -/
  ended : Bool := false
  /-- When the request was sent that no report has answered. -/
  requested : Option Nat := none
deriving DecidableEq

namespace Accumulator

def ofAgent (agent : Option String) : Accumulator := { agent }

/-- Whether a call is the one that a finish is about: it has not finished, and has
the finish's id, or its tool if the finish has no id. -/
def awaits (name : String) (id : Option String) (t : ToolCall) : Bool :=
  !t.done &&
    match id with
    | some id => t.id == some id
    | none => t.name == name

/-- The calls when one has finished: the latest that awaits it is done. -/
def finishCall (name : String) (id result error : Option String) (tools : List ToolCall) :
    List ToolCall :=
  updateLast (awaits name id) (fun t => { t with result, error, done := true }) tools

/-- Milliseconds since an earlier reading. Both readings are whole milliseconds. Of a finer clock it
is the difference that is cut off to whole milliseconds, so it may be one less than this. -/
def elapsed (now start : Nat) : UInt64 := .ofNat (min (now - start) 18446744073709551615)

def apply (now : Nat) (signal : Signal) (a : Accumulator) : Accumulator :=
  match signal with
  | .promptSubmitted prompt =>
    { a with current := { a.current with prompt := some prompt }, ended := false }
  | .toolStarted name input id =>
    { a with current := { a.current with tools := a.current.tools ++ [{ name, input, id }] } }
  | .toolFinished name id result error =>
    { a with current :=
      { a.current with tools := finishCall name id result error a.current.tools } }
  | .textBlock text =>
    { a with current := { a.current with texts := a.current.texts ++ [text] } }
  | .requestSent => { a with requested := some now }
  | .responseReceived usage model provider finishReason =>
    let current := { a.current with finishReason := finishReason.or a.current.finishReason }
    match usage with
    | none => { a with current }
    | some usage =>
      let metrics := TurnMetrics.ofUsage usage model provider (a.requested.map (elapsed now))
      { a with current := { current with metrics := some metrics }, requested := none }
  | .executionEnded => { a with ended := true }

/-- The state after an event, and whether it gave a signal. -/
def onEvent (now : Nat) (event : String) (data : Json) (a : Accumulator) : Bool × Accumulator :=
  match Signal.ofEvent? event data with
  | some signal => (true, a.apply now signal)
  | none => (false, a)

/-- Whether an event comes too late for the turn: from the model, after the end. -/
def isStraggler (event : String) (a : Accumulator) : Bool :=
  a.ended && Text.startsWith event "llm:"

/-- The turn so far, if it has data, and the state at the start of the next. -/
def flush (a : Accumulator) : Option Turn × Accumulator :=
  (if a.current.hasData then some { a.current with agent := a.agent } else none,
    ofAgent a.agent)

end Accumulator

end SessionRecorder
