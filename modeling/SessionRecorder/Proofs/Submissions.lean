import SessionRecorder.Proofs.Work
import SessionRecorder.Router.Decisions

/-!
Which records a router submits. Once it has contexts, these are the records that its
decisions ask for, whatever its store does with them (`submitted_handle`).
-/

namespace SessionRecorder

/-- The records that a decision about an event asks for. -/
def Decision.deliveries (contexts : SessionContexts) (shape : RecordShape) (l : Lineage)
    (c : Call) : Decision → List Delivery
  | .dropped => []
  | .recorded finished =>
    (Record.ofEvent shape c.event c.data l c.readings.event).into contexts.events ::
      (finished.toList.flatMap (·.items l.sessionId c.readings.turn)).map fun item =>
        Record.into contexts.turns ⟨.conversationItem, item⟩

/-- The records that the decisions about calls ask for, one call after the other. -/
def Pipeline.deliveries (contexts : SessionContexts) (shape : RecordShape) (l : Lineage) :
    Pipeline → List Call → List Delivery
  | _, [] => []
  | p, c :: rest =>
    let (decision, next) := p.step c.readings.steady c.event c.data
    decision.deliveries contexts shape l c ++ deliveries contexts shape l next rest

/-- The records that open the contexts of a session. -/
def Router.openings {σ ρ : Type} [ContextStore σ] (contexts : SessionContexts) (time : Int64)
    (r : Router σ ρ) : List Delivery :=
  [(r.opening contexts "Turns" time).into contexts.turns,
    (r.opening contexts "Events" time).into contexts.events]

/-- The records that the calls of a new session ask for. -/
def Router.asked {σ ρ : Type} [ContextStore σ] (contexts : SessionContexts) (r : Router σ ρ) :
    List Call → List Delivery
  | [] => []
  | c :: rest => r.openings contexts c.readings.setUp ++
      r.pipeline.deliveries contexts r.config.shape r.lineage (c :: rest)

/-- Calls as actions, each of them behind changes outside. -/
def Action.ofCalls {κ : Type} : List (List κ × Call) → List (Action κ)
  | [] => []
  | (changes, c) :: rest => changes.map .outside ++ .event c :: ofCalls rest

theorem Action.ofCalls_append {κ : Type} (first rest : List (List κ × Call)) :
    ofCalls (first ++ rest) = ofCalls first ++ ofCalls rest := by
  induction first with
  | nil => rfl
  | cons p first ih => simp only [List.cons_append, ofCalls, ih, List.append_assoc]

theorem Action.ofCalls_unchanged {κ : Type} (calls : List Call) :
    ofCalls (calls.map fun c => (([] : List κ), c)) = calls.map .event := by
  induction calls with
  | nil => rfl
  | cons c rest ih => rw [List.map_cons, ofCalls, ih, List.map_nil, List.nil_append, List.map_cons]

/-- Two routers that differ in their work alone. -/
structure Router.Alike {σ ρ : Type} (r s : Router σ ρ) : Prop where
  lineage : s.lineage = r.lineage
  config : s.config = r.config
  identity : s.identity = r.identity
  resolver : s.resolver = r.resolver

theorem Router.Alike.trans {σ ρ : Type} {r s t : Router σ ρ} (h : r.Alike s) (h' : s.Alike t) :
    r.Alike t :=
  ⟨h'.lineage.trans h.lineage, h'.config.trans h.config, h'.identity.trans h.identity,
    h'.resolver.trans h.resolver⟩

namespace Audited

variable {σ ρ κ : Type} [ContextStore σ] {a b : Audited σ ρ}

/-! ## What no step changes -/

theorem Step.alike (h : Step a b) : a.router.Alike b.router := by
  cases h <;> exact ⟨rfl, rfl, rfl, rfl⟩

theorem Steps.alike (h : Steps a b) : a.router.Alike b.router :=
  h.keeps (Q := fun x => a.router.Alike x.router) (fun hstep hx => hx.trans hstep.alike)
    ⟨rfl, rfl, rfl, rfl⟩

theorem Step.contexts {contexts : SessionContexts} (h : Step a b)
    (ha : a.router.contexts = some contexts) : b.router.contexts = some contexts := by
  cases h with
  | adopt _ hnone =>
    rw [hnone] at ha
    cases ha
  | _ => exact ha

/-- The contexts of a session stay. -/
theorem Steps.contexts {contexts : SessionContexts} (h : Steps a b)
    (ha : a.router.contexts = some contexts) : b.router.contexts = some contexts :=
  h.keeps (Q := fun x => x.router.contexts = some contexts) (fun hstep => hstep.contexts) ha

theorem Step.submitted (h : Step a b) : a.ledger.submitted <+: b.ledger.submitted := by
  cases h with
  | waiting d | accepted d | refused d | failed d => exact List.prefix_append _ [d]
  | _ => exact List.prefix_refl _

/-- What was submitted stays so. -/
theorem Steps.submitted (h : Steps a b) : a.ledger.submitted <+: b.ledger.submitted :=
  h.keeps (Q := fun x => a.ledger.submitted <+: x.ledger.submitted)
    (fun hstep hx => hx.trans hstep.submitted) (List.prefix_refl _)

/-! ## What each part of the work submits -/

@[simp] theorem submitted_submit (context : UInt64) (record : Record) (a : Audited σ ρ) :
    (a.submit context record).ledger.submitted =
      a.ledger.submitted ++ [record.into context] :=
  Outbox.submitted_enter _ _ _

theorem submitted_submitItems (context : UInt64) (items : List Payload) (a : Audited σ ρ) :
    (a.submitItems context items).ledger.submitted =
      a.ledger.submitted ++
        items.map fun item => Record.into context ⟨.conversationItem, item⟩ := by
  induction items generalizing a with
  | nil => simp [submitItems]
  | cons item rest ih => simp [submitItems, ih]

theorem submitted_recordTurn {contexts : SessionContexts} (time : Int64) (finished : Option Turn)
    (h : a.router.contexts = some contexts) :
    (a.recordTurn time finished).ledger.submitted = a.ledger.submitted ++
      (finished.toList.flatMap (·.items a.router.lineage.sessionId time)).map fun item =>
        Record.into contexts.turns ⟨.conversationItem, item⟩ := by
  unfold recordTurn
  cases finished with
  | none => simp
  | some turn => simp [h, submitted_submitItems]

theorem submitted_recordEvent {contexts : SessionContexts} (time : Int64) (event : String)
    (data : Json) (h : a.router.contexts = some contexts) :
    (a.recordEvent time event data).ledger.submitted = a.ledger.submitted ++
      [(Record.ofEvent a.router.config.shape event data a.router.lineage time).into
        contexts.events] := by
  simp only [recordEvent, h, submitted_submit]

theorem submitted_catchUp (a : Audited σ ρ) :
    a.catchUp.ledger.submitted = a.ledger.submitted := by
  simp only [catchUp, sendPending]
  split <;> rfl

theorem submitted_follow {contexts : SessionContexts} (c : Call) (decision : Decision)
    (h : a.router.contexts = some contexts) :
    (a.follow c decision).ledger.submitted = a.ledger.submitted ++
      decision.deliveries contexts a.router.config.shape a.router.lineage c := by
  cases decision with
  | dropped => simp [follow, Decision.deliveries]
  | recorded finished =>
    have hevent : Steps a (a.recordEvent c.readings.event c.event c.data) :=
      steps_recordEvent _ _ _ a
    rw [follow, submitted_recordTurn _ _ (hevent.contexts h), submitted_recordEvent _ _ _ h,
      hevent.alike.lineage, List.append_assoc]
    rfl

/-! ## Calls before there are contexts -/

theorem recordTurn_unopened (time : Int64) (finished : Option Turn)
    (h : a.router.contexts = none) : a.recordTurn time finished = a := by
  unfold recordTurn
  cases finished with
  | none => rfl
  | some turn => simp only [h]

/-- Without contexts nothing comes of a decision. -/
theorem follow_unopened (c : Call) (decision : Decision) (h : a.router.contexts = none) :
    a.follow c decision = a := by
  cases decision with
  | dropped => rfl
  | recorded finished =>
    have hevent : a.recordEvent c.readings.event c.event c.data = a := by
      simp only [recordEvent, Router.recordEvent, h]
    rw [follow, hevent]
    exact recordTurn_unopened _ finished h

theorem contexts_catchUp (r : Router σ ρ) : r.catchUp.contexts = r.contexts := by
  have hsent : r.sendPending.2.contexts = r.contexts := by
    unfold Router.sendPending
    split <;> rfl
  exact hsent

variable [RegistryPublisher ρ]

/-- A call that finds no contexts submits nothing. -/
theorem handle_unopened (c : Call)
    (h : (a.prepare c.readings.setUp).router.contexts = none) :
    (a.handle c).router.contexts = none ∧
      (a.handle c).ledger.submitted = (a.prepare c.readings.setUp).ledger.submitted := by
  let ready := (a.prepare c.readings.setUp).catchUp
  have hready : ready.router.contexts = none := (contexts_catchUp _).trans h
  obtain ⟨journal, hhandle⟩ := handle_eq c a
  rw [hhandle, follow_unopened c _ (by exact hready)]
  exact ⟨hready, submitted_catchUp _⟩

/-! ## Calls with contexts -/

theorem submitted_prepare {contexts : SessionContexts} (time : Int64)
    (h : a.router.contexts = some contexts) :
    (a.prepare time).ledger.submitted = a.ledger.submitted := by
  simp only [prepare, h, Option.isNone_some, Bool.false_eq_true, ↓reduceIte]

/-- A call submits what the decision about it asks for, once there are contexts. -/
theorem submitted_handle_of_prepared {contexts : SessionContexts} (c : Call)
    (h : (a.prepare c.readings.setUp).router.contexts = some contexts) :
    (a.handle c).ledger.submitted = (a.prepare c.readings.setUp).ledger.submitted ++
      (a.router.pipeline.step c.readings.steady c.event c.data).1.deliveries contexts
        a.router.config.shape a.router.lineage c := by
  let ready := (a.prepare c.readings.setUp).catchUp
  have hsteps : Steps a ready := (steps_prepare _ a).trans (steps_catchUp _)
  have halike := hsteps.alike
  have hpipeline : ready.router.pipeline = a.router.pipeline :=
    (Router.pipeline_catchUp _).trans (Router.pipeline_prepare _ a.router)
  have hcontexts : ready.router.contexts = some contexts := (steps_catchUp _).contexts h
  rw [← halike.config, ← halike.lineage, ← hpipeline,
    ← submitted_catchUp (a.prepare c.readings.setUp)]
  exact submitted_follow c _ hcontexts

theorem submitted_handle {contexts : SessionContexts} (c : Call)
    (h : a.router.contexts = some contexts) :
    (a.handle c).ledger.submitted = a.ledger.submitted ++
      (a.router.pipeline.step c.readings.steady c.event c.data).1.deliveries contexts
        a.router.config.shape a.router.lineage c := by
  have hprepared := (steps_prepare c.readings.setUp a).contexts h
  rw [submitted_handle_of_prepared c hprepared, submitted_prepare _ h]

theorem contexts_run (change : κ → σ → σ) {contexts : SessionContexts}
    (h : a.router.contexts = some contexts) (actions : List (Action κ)) :
    (a.run change actions).router.contexts = some contexts := by
  refine run_keeps (Q := fun x => x.router.contexts = some contexts) ?_ ?_ h actions
  · exact fun hstep hx => hstep.contexts hx
  · exact fun _ hx => hx

/-- Changes outside touch the store alone. -/
theorem run_outside (change : κ → σ → σ) (changes : List κ) (a : Audited σ ρ) :
    a.run change (changes.map .outside) =
      a.become
        (a.router.withStore (changes.foldl (fun s k => change k s) a.router.outbox.store)) := by
  induction changes generalizing a with
  | nil => rfl
  | cons k rest ih => exact ih _

theorem run_append (change : κ → σ → σ) (first rest : List (Action κ)) (a : Audited σ ρ) :
    a.run change (first ++ rest) = (a.run change first).run change rest :=
  List.foldl_append

/-- A call is handled by the router over the store as the changes before it have left it. -/
theorem run_ofCalls_cons (change : κ → σ → σ) (changes : List κ) (c : Call)
    (rest : List (List κ × Call)) (a : Audited σ ρ) :
    a.run change (Action.ofCalls ((changes, c) :: rest)) =
      ((a.become (a.router.withStore
        (changes.foldl (fun s k => change k s) a.router.outbox.store))).handle c).run change
          (Action.ofCalls rest) := by
  rw [Action.ofCalls, run_append, run_outside]
  rfl

/-- Calls submit what the decisions about them ask for, whatever happens between them. -/
theorem submitted_ofCalls (change : κ → σ → σ) {contexts : SessionContexts}
    (calls : List (List κ × Call)) (h : a.router.contexts = some contexts) :
    (a.run change (Action.ofCalls calls)).ledger.submitted = a.ledger.submitted ++
      a.router.pipeline.deliveries contexts a.router.config.shape a.router.lineage
        (calls.map (·.2)) := by
  induction calls generalizing a with
  | nil => simp [Action.ofCalls, run, Pipeline.deliveries]
  | cons p rest ih =>
    obtain ⟨changes, c⟩ := p
    let met := a.become
      (a.router.withStore (changes.foldl (fun s k => change k s) a.router.outbox.store))
    have hmet : met.router.contexts = some contexts := h
    have hsteps : Steps met (met.handle c) := steps_handle c met
    rw [run_ofCalls_cons, ih (hsteps.contexts hmet), submitted_handle c hmet,
      hsteps.alike.config, hsteps.alike.lineage,
      show (met.handle c).router.pipeline = _ from Router.pipeline_handleEvent _ _ _ met.router]
    simp only [List.map_cons, Pipeline.deliveries, List.append_assoc]
    rfl

end Audited

end SessionRecorder
