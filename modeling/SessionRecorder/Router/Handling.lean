import SessionRecorder.Router.Basic

/-!
The work of a router: it sets up two contexts in a store, one for the turns and one
for all events, and brings there what the pipeline decides to record. Nothing that
goes wrong reaches the session; it is reported.
-/

namespace SessionRecorder.Router

variable {σ ρ : Type}

def resolve (r : Router σ ρ) : Except StoreError SessionContexts × Router σ ρ :=
  let (result, journal, store) := r.resolver r.lineage r.outbox.store
  (result, (r.withStore store).report journal)

def publicationReport : Except RegistryError Unit → Log.Journal
  | .ok () => []
  | .error e => [.warn "registry publish failed, continuing" [("error", e.message)]]

/-- Publishes the bundle, where that is wanted and has not been done. A failure is
reported, and does no other harm. -/
def publishBundle [RegistryPublisher ρ] (r : Router σ ρ) : Router σ ρ :=
  match r.publisher with
  | some publisher =>
    if r.config.publishRegistry && !r.published then
      let (result, journal, publisher) := RegistryPublisher.publish publisher
      { r with publisher := some publisher, published := result.isOk }.report
        (journal ++ publicationReport result)
    else r
  | none => r

variable [ContextStore σ]

/-- Connects the store, and gives the given report if that succeeds. -/
def connect (success : Log.Event) (r : Router σ ρ) : Except StoreError Unit × Router σ ρ :=
  let (result, store) := ContextStore.connect r.outbox.store
  (result, (r.withStore store).report (if result.isOk then [success] else []))

def connectFirst (r : Router σ ρ) : Except StoreError Unit × Router σ ρ :=
  if r.isConnected then (.ok (), r)
  else r.connect (.info "connected to CXDB"
    [("client_tag", ContextStore.clientTag r.outbox.store)])

def reconnect (r : Router σ ρ) : Except StoreError Unit × Router σ ρ :=
  r.connect (.info "reconnected to CXDB" [("pending", toString r.outbox.buffer.size)])

/-- Ends the session's recording: the turn in progress and what waits are sent, as
far as that is possible without connecting again, and the store is closed. -/
def cleanUp (time : Int64) (r : Router σ ρ) : Router σ ρ :=
  let (finished, turns) := r.pipeline.turns.flush
  let r := { r with pipeline := { r.pipeline with turns } }
  let (unflushed, r) := r.recordTurn time finished
  let (_, r) := r.sendPending
  let left := if r.outbox.buffer.isEmpty then []
    else [.debug "records left unsent at cleanup"
      [("remaining", toString r.outbox.buffer.size)]]
  let r := r.report left
  (r.withStore (ContextStore.close r.outbox.store)).reportFailures "cleanup" unflushed

variable [RegistryPublisher ρ]

/-- Sets the contexts up: connects the store, publishes the bundle, gets the contexts
and opens them. Does nothing where there are contexts already. -/
def setUp (time : Int64) (r : Router σ ρ) : Except RouterError Unit × Router σ ρ :=
  if r.contexts.isSome then (.ok (), r)
  else
    match r.connectFirst with
    | (.error e, r) => (.error (.store e), r)
    | (.ok (), r) =>
      match r.publishBundle.resolve with
      | (.error e, r) => (.error (.store e), r)
      | (.ok contexts, r) => (.ok (), r.openContexts contexts time)

/-- Sets the contexts up if there are none, or else connects the store if it is not
connected. -/
def prepare (time : Int64) (r : Router σ ρ) : List Failure × Router σ ρ :=
  if r.contexts.isNone then
    let (result, r) := r.setUp time
    (Failure.ofResult .setUp result, r)
  else if r.isConnected then ([], r)
  else
    let (result, r) := r.reconnect
    (Failure.ofCall .reconnect result, r)

def handleEvent (t : Readings) (event : String) (data : Json) (r : Router σ ρ) : Router σ ρ :=
  let (unready, r) := r.prepare t.setUp
  let r := r.catchUp
  let (decision, pipeline) := r.pipeline.step t.steady event data
  let r := { r with pipeline }
  match decision with
  | .dropped => r.reportFailures event unready
  | .recorded finished =>
    let (unwritten, r) := r.recordEvent t.event event data
    let (unflushed, r) := r.recordTurn t.turn finished
    r.reportFailures event (unready ++ unwritten ++ unflushed)

end SessionRecorder.Router
