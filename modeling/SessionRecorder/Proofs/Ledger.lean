import SessionRecorder.Router.Handling

/-!
A ledger beside a router: the records that are handed to its outbox, those whose
append the store has acknowledged and those that it has refused at once. The ledger
is kept by the side and decides nothing. Main statement: `router_run`.
-/

namespace SessionRecorder

/-- What has become of the records of an outbox, each list oldest first. -/
structure Ledger where
  submitted : List Delivery := []
  /-- Those whose append the store has acknowledged. -/
  acknowledged : List Delivery := []
  /-- Those that the store has refused when they were handed over. -/
  refused : List Delivery := []

namespace Ledger

def submit (d : Delivery) (l : Ledger) : Ledger := { l with submitted := l.submitted ++ [d] }

def acknowledge (d : Delivery) (l : Ledger) : Ledger :=
  { l with acknowledged := l.acknowledged ++ [d] }

def refuse (d : Delivery) (l : Ledger) : Ledger := { l with refused := l.refused ++ [d] }

end Ledger

/-- A record on its way into a context. -/
def Record.into (context : UInt64) (r : Record) : Delivery := ⟨context, r.type, r.payload.serialize⟩

namespace Outbox

variable {σ : Type} [ContextStore σ]

/-- The ledger once a record is handed over. -/
def enter (d : Delivery) (o : Outbox σ) (l : Ledger) : Ledger :=
  if o.waits then l.submit d
  else
    match (ContextStore.append 0 d o.store).1 with
    | .ok _ => (l.submit d).acknowledge d
    | .error e => if e.isProtocol then (l.submit d).refuse d else l.submit d

/-- Those of the records that the store acknowledges when they are sent in order. -/
def acknowledgedOf : List Delivery → σ → List Delivery
  | [], _ => []
  | d :: rest, store =>
    match ContextStore.append 0 d store with
    | (.ok _, store) => d :: acknowledgedOf rest store
    | (.error e, store) => if e.isProtocol then acknowledgedOf rest store else []

/-- The ledger once what waits is sent. -/
def enterDrain (o : Outbox σ) (l : Ledger) : Ledger :=
  { l with acknowledged := l.acknowledged ++ acknowledgedOf o.buffer.records o.store }

@[simp] theorem submitted_enter (d : Delivery) (o : Outbox σ) (l : Ledger) :
    (o.enter d l).submitted = l.submitted ++ [d] := by
  unfold enter
  split
  · rfl
  · split
    · rfl
    · split <;> rfl

end Outbox

/-- An event with its data, at the readings of the clocks when it comes. -/
structure Call where
  readings : Readings
  event : String
  data : Json

/-- What can happen to a router: its three calls, and changes of another kind outside. -/
inductive Action (κ : Type) where
  | setUp (time : Int64)
  | event (call : Call)
  | cleanUp (time : Int64)
  | outside (change : κ)

namespace Router

variable {σ ρ κ : Type} [ContextStore σ] [RegistryPublisher ρ]

def handle (c : Call) (r : Router σ ρ) : Router σ ρ := r.handleEvent c.readings c.event c.data

/-- The router after calls with nothing between them. -/
def handleAll (calls : List Call) (r : Router σ ρ) : Router σ ρ :=
  calls.foldl (fun r c => r.handle c) r

/-- The router after an action; `change` says what the changes outside do to the store. -/
def act (change : κ → σ → σ) (r : Router σ ρ) : Action κ → Router σ ρ
  | .setUp time => (r.setUp time).2
  | .event c => r.handle c
  | .cleanUp time => r.cleanUp time
  | .outside k => r.withStore (change k r.outbox.store)

def run (change : κ → σ → σ) (r : Router σ ρ) (actions : List (Action κ)) : Router σ ρ :=
  actions.foldl (act change) r

theorem run_calls (change : κ → σ → σ) (calls : List Call) (r : Router σ ρ) :
    r.run change (calls.map .event) = r.handleAll calls := by
  rw [run, List.foldl_map]
  rfl

end Router

/-- A router with the ledger of its records. -/
structure Audited (σ ρ : Type) where
  router : Router σ ρ
  ledger : Ledger := {}

namespace Audited

variable {σ ρ κ : Type}

/-- The same ledger beside another state of the router. -/
def become (r : Router σ ρ) (a : Audited σ ρ) : Audited σ ρ := { a with router := r }

variable [ContextStore σ]

def submit (context : UInt64) (record : Record) (a : Audited σ ρ) : Audited σ ρ where
  router := (a.router.submit context record).2
  ledger := a.router.outbox.enter (record.into context) a.ledger

def drain (a : Audited σ ρ) : Audited σ ρ where
  router := { a.router with outbox := a.router.outbox.drain.2 }
  ledger := a.router.outbox.enterDrain a.ledger

def openContext (contexts : SessionContexts) (context : UInt64) (label : String) (time : Int64)
    (a : Audited σ ρ) : Audited σ ρ where
  router := a.router.openContext contexts context label time
  ledger := (a.submit context (a.router.opening contexts label time)).ledger

def openContexts (contexts : SessionContexts) (time : Int64) (a : Audited σ ρ) : Audited σ ρ :=
  let a := a.become { a.router with contexts := some contexts }
  let a := a.openContext contexts contexts.turns "Turns" time
  a.openContext contexts contexts.events "Events" time

def recordEvent (time : Int64) (event : String) (data : Json) (a : Audited σ ρ) :
    Audited σ ρ where
  router := (a.router.recordEvent time event data).2
  ledger :=
    match a.router.contexts with
    | none => a.ledger
    | some contexts => (a.submit contexts.events
        (.ofEvent a.router.config.shape event data a.router.lineage time)).ledger

def submitItems (context : UInt64) : List Payload → Audited σ ρ → Audited σ ρ
  | [], a => a
  | item :: rest, a => submitItems context rest (a.submit context ⟨.conversationItem, item⟩)

def recordTurn (time : Int64) (finished : Option Turn) (a : Audited σ ρ) : Audited σ ρ :=
  match finished, a.router.contexts with
  | some turn, some contexts =>
    a.submitItems contexts.turns (turn.items a.router.lineage.sessionId time)
  | _, _ => a

/-- Does what is decided about an event. -/
def follow (c : Call) (decision : Decision) (a : Audited σ ρ) : Audited σ ρ :=
  match decision with
  | .dropped => a
  | .recorded finished =>
    (a.recordEvent c.readings.event c.event c.data).recordTurn c.readings.turn finished

def sendPending (a : Audited σ ρ) : Audited σ ρ :=
  if a.router.isConnected && !a.router.outbox.buffer.isEmpty then a.drain else a

def catchUp (a : Audited σ ρ) : Audited σ ρ where
  router := a.router.catchUp
  ledger := a.sendPending.ledger

def cleanUp (time : Int64) (a : Audited σ ρ) : Audited σ ρ where
  router := a.router.cleanUp time
  ledger :=
    let (finished, turns) := a.router.pipeline.turns.flush
    let a := a.become { a.router with pipeline := { a.router.pipeline with turns } }
    ((a.recordTurn time finished).sendPending).ledger

variable [RegistryPublisher ρ]

def setUp (time : Int64) (a : Audited σ ρ) : Audited σ ρ where
  router := (a.router.setUp time).2
  ledger :=
    if a.router.contexts.isSome then a.ledger
    else
      match a.router.connectFirst with
      | (.error _, _) => a.ledger
      | (.ok (), r) =>
        match r.publishBundle.resolve with
        | (.error _, _) => a.ledger
        | (.ok contexts, r) => ((a.become r).openContexts contexts time).ledger

def prepare (time : Int64) (a : Audited σ ρ) : Audited σ ρ where
  router := (a.router.prepare time).2
  ledger := if a.router.contexts.isNone then (a.setUp time).ledger else a.ledger

def handle (c : Call) (a : Audited σ ρ) : Audited σ ρ where
  router := a.router.handle c
  ledger :=
    let a := (a.prepare c.readings.setUp).catchUp
    let (decision, pipeline) := a.router.pipeline.step c.readings.steady c.event c.data
    ((a.become { a.router with pipeline }).follow c decision).ledger

def act (change : κ → σ → σ) (a : Audited σ ρ) : Action κ → Audited σ ρ
  | .setUp time => a.setUp time
  | .event c => a.handle c
  | .cleanUp time => a.cleanUp time
  | .outside k => a.become (a.router.withStore (change k a.router.outbox.store))

def run (change : κ → σ → σ) (a : Audited σ ρ) (actions : List (Action κ)) : Audited σ ρ :=
  actions.foldl (act change) a

theorem router_act (change : κ → σ → σ) (a : Audited σ ρ) (action : Action κ) :
    (a.act change action).router = a.router.act change action := by
  cases action <;> rfl

/-- The ledger has no part in what the router does. -/
theorem router_run (change : κ → σ → σ) (a : Audited σ ρ) (actions : List (Action κ)) :
    (a.run change actions).router = a.router.run change actions := by
  induction actions generalizing a with
  | nil => rfl
  | cons action rest ih =>
    have h := ih (a.act change action)
    rw [router_act] at h
    exact h

end Audited

/-! ## A session on which the statements are tried -/

namespace Sample

def lineage : Lineage := .ofIds "session" none none

/-- Five records may wait. -/
def config : RouterConfig := ⟨5, .highWaterMark, .envelope, true, "project", ""⟩

def identity : Identity :=
  ⟨"amplifier", none, ⟨List.replicate 16 0, rfl⟩, 1, none, none, "x86_64", "rust", []⟩

def publisher : Option CountingPublisher := some { fails := false }

def call (time : Nat) (event : String) (data : List (String × Json)) : Call :=
  ⟨⟨.ofNat time, .ofNat time, .ofNat time, time⟩, event, .object data⟩

def prompt : Call := call 1 "prompt:submit" [("prompt", .string "hello")]

def tool : Call := call 2 "tool:pre" [("tool_name", .string "grep")]

def finish : Call := call 3 "orchestrator:complete" []

end Sample

end SessionRecorder
