import SessionRecorder.Contexts
import SessionRecorder.Outbox
import SessionRecorder.Pipeline
import SessionRecorder.Record.ContextMetadata
import SessionRecorder.Router.Failure

/-!
The router of a session, and the submission of its records: the records that open
its contexts, those of its events and those of its turns.
-/

namespace SessionRecorder

structure RouterConfig where
  bufferSize : Nat
  dedupMode : DedupMode
  shape : RecordShape
  publishRegistry : Bool
  project : String
  bundle : String

def RouterConfig.ofSettings (s : Settings) (project : String) : RouterConfig where
  bufferSize := s.bufferSize.toNat
  dedupMode := s.dedupMode
  shape := s.recordShape
  publishRegistry := s.publishRegistry
  project
  bundle := ""

/-- The readings of the clocks during one call: the wall clock, in milliseconds,
when contexts are opened, when an event is recorded and when a turn is, and the
steady clock. -/
structure Readings where
  setUp : Int64
  event : Int64
  turn : Int64
  steady : Nat

structure Clock where
  wall : Int64
  steady : Nat := 0

/-- The readings of a call that takes no time. -/
def Clock.readings (c : Clock) : Readings := ⟨c.wall, c.wall, c.wall, c.steady⟩

def Clock.advance (ms : Nat) (c : Clock) : Clock :=
  { wall := c.wall + .ofNat ms, steady := c.steady + ms }

structure Router (σ ρ : Type) where
  lineage : Lineage
  config : RouterConfig
  identity : Identity
  resolver : Resolver σ
  publisher : Option ρ
  /-- The contexts of the session, once they are set up. -/
  contexts : Option SessionContexts := none
  published : Bool := false
  pipeline : Pipeline
  outbox : Outbox σ

namespace Router

variable {σ ρ : Type}

/-- A router that has not been set up, over a store and the events known to come. -/
def create (store : σ) (l : Lineage) (config : RouterConfig) (identity : Identity)
    (known : List String) (resolver : Resolver σ) (publisher : Option ρ) : Router σ ρ where
  lineage := l
  config
  identity
  resolver
  publisher
  pipeline := ⟨.ofMode config.dedupMode known, .ofAgent l.agent⟩
  outbox := { store, buffer := .ofCapacity config.bufferSize }

def report (events : Log.Journal) (r : Router σ ρ) : Router σ ρ :=
  { r with outbox := r.outbox.report events }

def withStore (store : σ) (r : Router σ ρ) : Router σ ρ :=
  { r with outbox := { r.outbox with store } }

def reportFailures (event : String) (failures : List Failure) (r : Router σ ρ) : Router σ ρ :=
  r.report (failures.map (·.report event))

variable [ContextStore σ]

def isConnected (r : Router σ ρ) : Bool := r.outbox.isConnected

def submit (context : UInt64) (record : Record) (r : Router σ ρ) :
    Except StoreError Unit × Router σ ρ :=
  let (result, outbox) := r.outbox.submit context record
  (result, { r with outbox })

def opening (contexts : SessionContexts) (label : String) (time : Int64) (r : Router σ ρ) :
    Record :=
  let m : ContextMetadata := {
    label
    clientTag := ContextStore.clientTag r.outbox.store
    project := r.config.project
    bundle := r.config.bundle
    parentContext := contexts.parent
    rootContext := contexts.root }
  ⟨.conversationItem, m.item r.lineage r.identity time⟩

/-- The report about the record that opens a context, if it was not stored. -/
def openingReport (context : UInt64) : Except StoreError Unit → Log.Journal
  | .ok () => []
  | .error e => [.debug "context metadata buffered"
      [("context_id", toString context.toNat), ("error", e.message)]]

def openContext (contexts : SessionContexts) (context : UInt64) (label : String) (time : Int64)
    (r : Router σ ρ) : Router σ ρ :=
  let (result, r) := r.submit context (r.opening contexts label time)
  r.report (openingReport context result)

/-- Opens both contexts of the session, which has these contexts from now on. -/
def openContexts (contexts : SessionContexts) (time : Int64) (r : Router σ ρ) : Router σ ρ :=
  let r := { r with contexts := some contexts }
  let r := r.openContext contexts contexts.turns "Turns" time
  r.openContext contexts contexts.events "Events" time

def recordEvent (time : Int64) (event : String) (data : Json) (r : Router σ ρ) :
    List Failure × Router σ ρ :=
  match r.contexts with
  | none => ([⟨.writeEvent, .notSetUp⟩], r)
  | some contexts =>
    let (result, r) :=
      r.submit contexts.events (.ofEvent r.config.shape event data r.lineage time)
    (Failure.ofCall .writeEvent result, r)

/-- Submits items into a context, each of them whether or not the others fail. -/
def submitItems (context : UInt64) : List Payload → Router σ ρ → List Failure × Router σ ρ
  | [], r => ([], r)
  | item :: rest, r =>
    let (result, r) := r.submit context ⟨.conversationItem, item⟩
    let (failures, r) := submitItems context rest r
    (Failure.ofCall .flushTurns result ++ failures, r)

def recordTurn (time : Int64) (finished : Option Turn) (r : Router σ ρ) :
    List Failure × Router σ ρ :=
  match finished with
  | none => ([], r)
  | some turn =>
    match r.contexts with
    | none => ([⟨.flushTurns, .notSetUp⟩], r)
    | some contexts => r.submitItems contexts.turns (turn.items r.lineage.sessionId time)

/-- Sends what waits, if the store is connected. -/
def sendPending (r : Router σ ρ) : Nat × Router σ ρ :=
  if r.isConnected && !r.outbox.buffer.isEmpty then
    let (sent, outbox) := r.outbox.drain
    (sent, { r with outbox })
  else (0, r)

def sentReport (sent remaining : Nat) : Log.Journal :=
  if sent = 0 then []
  else [.debug "retry buffer drained"
    [("sent", toString sent), ("remaining", toString remaining)]]

/-- Sends what waits, and reports how much was sent. -/
def catchUp (r : Router σ ρ) : Router σ ρ :=
  let (sent, r) := r.sendPending
  r.report (sentReport sent r.outbox.buffer.size)

end Router

end SessionRecorder
