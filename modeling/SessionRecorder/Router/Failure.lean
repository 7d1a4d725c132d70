import SessionRecorder.Log
import SessionRecorder.Registry.Publisher
import SessionRecorder.Store.Error

/-!
What can go wrong while an event is handled, and how it is reported.
-/

namespace SessionRecorder

inductive RouterError where
  | store (e : StoreError)
  | wire (e : WireError)
  | notSetUp
  | registry (e : RegistryError)
deriving DecidableEq

namespace RouterError

def message : RouterError → String
  | store e => e.message
  | wire e => e.message
  | notSetUp => "router not initialized"
  | registry e => e.message

def kind : RouterError → String
  | store e =>
    if e.isConnection then "connection"
    else if e = .notConnected then "not_connected"
    else if e.isProtocol then "protocol"
    else "store"
  | wire _ => "encode"
  | notSetUp => "not_initialized"
  | registry _ => "registry"

end RouterError

/-- The parts of the work on an event that can fail. -/
inductive Step where
  | setUp
  | reconnect
  | writeEvent
  | flushTurns
deriving DecidableEq

def Step.name : Step → String
  | .setUp => "initialize"
  | .reconnect => "reconnect"
  | .writeEvent => "write_event"
  | .flushTurns => "flush_turns"

structure Failure where
  step : Step
  error : RouterError
deriving DecidableEq

/-- The report of a failure during an event. Only a failed set-up is a warning. -/
def Failure.report (event : String) (f : Failure) : Log.Event :=
  let fields := [("event", event), ("step", f.step.name), ("kind", f.error.kind),
    ("error", f.error.message)]
  match f.step with
  | .setUp => .warn "CXDB initialization failed" fields
  | _ => .debug "CXDB step failed" fields

def Failure.ofResult (step : Step) : Except RouterError Unit → List Failure
  | .ok () => []
  | .error e => [⟨step, e⟩]

def Failure.ofCall (step : Step) (result : Except StoreError Unit) : List Failure :=
  ofResult step (result.mapError .store)

end SessionRecorder
