import Mathlib.Logic.Relation
import SessionRecorder.Proofs.Ledger

/-!
The steps of which all work of a router consists (`Audited.Step`). Every call is a
sequence of them (`steps_act`), so what each step keeps, every run keeps (`run_keeps`).
-/

namespace SessionRecorder

namespace Outbox

variable {σ : Type} [ContextStore σ] {d : Delivery} {store : σ}

theorem drainRecords_ok (run : Nat) (rest : List Delivery) {ack : ContextHead} {next : σ}
    (h : ContextStore.append 0 d store = (.ok ack, next)) :
    drainRecords run (d :: rest) store =
      { drainRecords (run + 1) rest next with
        sent := (drainRecords (run + 1) rest next).sent + 1 } := by
  simp only [drainRecords, h]

theorem drainRecords_refused (run : Nat) (rest : List Delivery) {e : StoreError} {next : σ}
    (h : ContextStore.append 0 d store = (.error e, next)) (he : e.isProtocol = true) :
    ∃ journal, drainRecords run (d :: rest) store =
      { drainRecords 0 rest next with
        rejected := (drainRecords 0 rest next).rejected + 1
        journal } := by
  simp only [drainRecords, h, he, ↓reduceIte]
  exact ⟨_, rfl⟩

theorem drainRecords_stopped (run : Nat) (rest : List Delivery) {e : StoreError} {next : σ}
    (h : ContextStore.append 0 d store = (.error e, next)) (he : e.isProtocol = false) :
    ∃ journal, drainRecords run (d :: rest) store = ⟨next, d :: rest, 0, 0, journal⟩ := by
  simp only [drainRecords, h, he, Bool.false_eq_true, ↓reduceIte]
  exact ⟨_, rfl⟩

theorem acknowledgedOf_ok (rest : List Delivery) {ack : ContextHead} {next : σ}
    (h : ContextStore.append 0 d store = (.ok ack, next)) :
    acknowledgedOf (d :: rest) store = d :: acknowledgedOf rest next := by
  simp only [acknowledgedOf, h]

theorem acknowledgedOf_refused (rest : List Delivery) {e : StoreError} {next : σ}
    (h : ContextStore.append 0 d store = (.error e, next)) (he : e.isProtocol = true) :
    acknowledgedOf (d :: rest) store = acknowledgedOf rest next := by
  simp only [acknowledgedOf, h, he, ↓reduceIte]

theorem acknowledgedOf_stopped (rest : List Delivery) {e : StoreError} {next : σ}
    (h : ContextStore.append 0 d store = (.error e, next)) (he : e.isProtocol = false) :
    acknowledgedOf (d :: rest) store = [] := by
  simp only [acknowledgedOf, h, he, Bool.false_eq_true, ↓reduceIte]

end Outbox

namespace Audited

variable {σ ρ κ : Type} [ContextStore σ]

/-- The router with other records waiting, over another state of its store. -/
def shift (store : σ) (buffer : RetryBuffer) (a : Audited σ ρ) : Router σ ρ :=
  { a.router with outbox := { a.router.outbox with store, buffer } }

/-- One step of the work of a router. -/
inductive Step : Audited σ ρ → Audited σ ρ → Prop where
  /-- A record is handed over and waits. -/
  | waiting {a : Audited σ ρ} (d : Delivery) (h : a.router.outbox.waits = true) :
      Step a ⟨{ a.router with outbox := a.router.outbox.postpone d }, a.ledger.submit d⟩
  /-- A record is handed over and stored. -/
  | accepted {a : Audited σ ρ} (d : Delivery) {ack : ContextHead} {store : σ}
      (h : a.router.outbox.waits = false)
      (happ : ContextStore.append 0 d a.router.outbox.store = (.ok ack, store)) :
      Step a ⟨a.router.withStore store, (a.ledger.submit d).acknowledge d⟩
  /-- A record is handed over and refused. -/
  | refused {a : Audited σ ρ} (d : Delivery) {e : StoreError} {store : σ}
      (h : a.router.outbox.waits = false)
      (happ : ContextStore.append 0 d a.router.outbox.store = (.error e, store))
      (he : e.isProtocol = true) :
      Step a ⟨a.router.withStore store, (a.ledger.submit d).refuse d⟩
  /-- A record is handed over, its append fails, and it waits. -/
  | failed {a : Audited σ ρ} (d : Delivery) {e : StoreError} {store : σ}
      (h : a.router.outbox.waits = false)
      (happ : ContextStore.append 0 d a.router.outbox.store = (.error e, store))
      (he : e.isProtocol = false) :
      Step a ⟨{ a.router with outbox := (a.router.withStore store).outbox.postpone d },
        a.ledger.submit d⟩
  /-- The oldest record that waits is stored. -/
  | sent {a : Audited σ ρ} {d : Delivery} {rest : List Delivery} {ack : ContextHead} {store : σ}
      (h : a.router.outbox.buffer.records = d :: rest)
      (happ : ContextStore.append 0 d a.router.outbox.store = (.ok ack, store)) :
      Step a ⟨a.shift store { a.router.outbox.buffer with
        records := rest, sent := a.router.outbox.buffer.sent + 1 }, a.ledger.acknowledge d⟩
  /-- The oldest record that waits is refused. -/
  | rejected {a : Audited σ ρ} {d : Delivery} {rest : List Delivery} {e : StoreError} {store : σ}
      (h : a.router.outbox.buffer.records = d :: rest)
      (happ : ContextStore.append 0 d a.router.outbox.store = (.error e, store))
      (he : e.isProtocol = true) :
      Step a ⟨a.shift store { a.router.outbox.buffer with
        records := rest, rejected := a.router.outbox.buffer.rejected + 1 }, a.ledger⟩
  /-- The append of the oldest record that waits fails. -/
  | stopped {a : Audited σ ρ} {d : Delivery} {rest : List Delivery} {e : StoreError} {store : σ}
      (h : a.router.outbox.buffer.records = d :: rest)
      (happ : ContextStore.append 0 d a.router.outbox.store = (.error e, store))
      (he : e.isProtocol = false) :
      Step a (a.become (a.router.withStore store))
  | connect {a : Audited σ ρ} :
      Step a (a.become (a.router.withStore (ContextStore.connect a.router.outbox.store).2))
  | resolve {a : Audited σ ρ} :
      Step a (a.become (a.router.withStore
        (a.router.resolver a.router.lineage a.router.outbox.store).2.2))
  | close {a : Audited σ ρ} :
      Step a (a.become (a.router.withStore (ContextStore.close a.router.outbox.store)))
  | report {a : Audited σ ρ} (journal : Log.Journal) : Step a (a.become (a.router.report journal))
  | think {a : Audited σ ρ} (pipeline : Pipeline) :
      Step a (a.become { a.router with pipeline })
  | publish {a : Audited σ ρ} (publisher : Option ρ) (published : Bool) :
      Step a (a.become { a.router with publisher, published })
  | adopt {a : Audited σ ρ} (contexts : SessionContexts) (h : a.router.contexts = none) :
      Step a (a.become { a.router with contexts := some contexts })

/-- Any number of steps. -/
abbrev Steps : Audited σ ρ → Audited σ ρ → Prop := Relation.ReflTransGen Step

theorem Steps.keeps {Q : Audited σ ρ → Prop} {a b : Audited σ ρ} (h : Steps a b)
    (hstep : ∀ {x y}, Step x y → Q x → Q y) (ha : Q a) : Q b := by
  induction h with
  | refl => exact ha
  | tail _ hlast ih => exact hstep hlast ih

theorem Step.steps {a b : Audited σ ρ} (h : Step a b) : Steps a b := .single h

/-! ## Handing over and sending -/

theorem steps_submit (context : UInt64) (record : Record) (a : Audited σ ρ) :
    Steps a (a.submit context record) := by
  unfold submit Router.submit Outbox.submit Outbox.deliver Outbox.enter Record.into
  cases hw : a.router.outbox.waits with
  | true => exact (Step.waiting _ hw).steps
  | false =>
    rcases happ : ContextStore.append 0 ⟨context, record.type, record.payload.serialize⟩
      a.router.outbox.store with ⟨e | ack, store⟩
    · cases he : e.isProtocol with
      | true =>
        simp only [he, Bool.false_eq_true, ↓reduceIte]
        exact (Step.refused _ hw happ he).steps.tail (.report _)
      | false =>
        simp only [he, Bool.false_eq_true, ↓reduceIte]
        exact (Step.failed _ hw happ he).steps
    · simp only [Bool.false_eq_true, ↓reduceIte]
      exact (Step.accepted _ hw happ).steps.tail (.report _)

/-- Sending takes the records from the front one after the other. -/
private theorem steps_drainRecords (run : Nat) (ds : List Delivery) (a : Audited σ ρ)
    (h : a.router.outbox.buffer.records = ds) :
    let r := Outbox.drainRecords run ds a.router.outbox.store
    Steps a ⟨a.shift r.store { a.router.outbox.buffer with
        records := r.remaining
        sent := a.router.outbox.buffer.sent + r.sent
        rejected := a.router.outbox.buffer.rejected + r.rejected },
      { a.ledger with acknowledged := a.ledger.acknowledged ++
          Outbox.acknowledgedOf ds a.router.outbox.store }⟩ := by
  induction ds generalizing run a with
  | nil =>
    have hbuffer : { a.router.outbox.buffer with records := [] } = a.router.outbox.buffer := by
      rw [← h]
    simp only [Outbox.drainRecords, Outbox.acknowledgedOf, Nat.add_zero, List.append_nil, hbuffer]
    exact .refl
  | cons d rest ih =>
    rcases happ : ContextStore.append 0 d a.router.outbox.store with ⟨e | ack, store⟩
    · cases he : e.isProtocol with
      | true =>
        obtain ⟨journal, hdrain⟩ := Outbox.drainRecords_refused run rest happ he
        have hstep := Step.rejected h happ he
        refine .head hstep ?_
        have hrest := ih 0 ⟨a.shift store { a.router.outbox.buffer with
          records := rest, rejected := a.router.outbox.buffer.rejected + 1 }, a.ledger⟩ rfl
        rw [hdrain, Outbox.acknowledgedOf_refused rest happ he]
        simpa [shift, Nat.add_assoc, Nat.add_comm 1] using hrest
      | false =>
        obtain ⟨journal, hdrain⟩ := Outbox.drainRecords_stopped run rest happ he
        have hbuffer : { a.router.outbox.buffer with records := d :: rest } =
            a.router.outbox.buffer := by rw [← h]
        rw [hdrain, Outbox.acknowledgedOf_stopped rest happ he]
        simp only [Nat.add_zero, List.append_nil, hbuffer]
        exact (Step.stopped h happ he).steps
    · have hstep := Step.sent h happ
      refine .head hstep ?_
      have hrest := ih (run + 1) ⟨a.shift store { a.router.outbox.buffer with
        records := rest, sent := a.router.outbox.buffer.sent + 1 }, a.ledger.acknowledge d⟩ rfl
      rw [Outbox.drainRecords_ok run rest happ, Outbox.acknowledgedOf_ok rest happ]
      simpa [shift, Ledger.acknowledge, Nat.add_assoc, Nat.add_comm 1] using hrest

theorem steps_drain (a : Audited σ ρ) : Steps a a.drain :=
  (steps_drainRecords 0 _ a rfl).tail (.report _)

theorem steps_openContext (contexts : SessionContexts) (context : UInt64) (label : String)
    (time : Int64) (a : Audited σ ρ) : Steps a (a.openContext contexts context label time) :=
  (steps_submit context (a.router.opening contexts label time) a).tail (.report _)

theorem steps_openContexts (contexts : SessionContexts) (time : Int64) (a : Audited σ ρ)
    (h : a.router.contexts = none) : Steps a (a.openContexts contexts time) := by
  unfold openContexts
  refine .head (.adopt contexts h) ?_
  exact (steps_openContext contexts contexts.turns "Turns" time _).trans
    (steps_openContext contexts contexts.events "Events" time _)

theorem steps_recordEvent (time : Int64) (event : String) (data : Json) (a : Audited σ ρ) :
    Steps a (a.recordEvent time event data) := by
  unfold recordEvent Router.recordEvent
  cases h : a.router.contexts with
  | none => exact .refl
  | some contexts => exact steps_submit contexts.events _ a

theorem steps_submitItems (context : UInt64) (items : List Payload) (a : Audited σ ρ) :
    Steps a (a.submitItems context items) := by
  induction items generalizing a with
  | nil => exact .refl
  | cons item rest ih => exact (steps_submit context _ a).trans (ih _)

theorem router_submitItems (context : UInt64) (items : List Payload) (a : Audited σ ρ) :
    (a.submitItems context items).router = (a.router.submitItems context items).2 := by
  induction items generalizing a with
  | nil => rfl
  | cons item rest ih => exact ih _

theorem steps_recordTurn (time : Int64) (finished : Option Turn) (a : Audited σ ρ) :
    Steps a (a.recordTurn time finished) := by
  unfold recordTurn
  split
  · exact steps_submitItems _ _ a
  · exact .refl

theorem router_recordTurn (time : Int64) (finished : Option Turn) (a : Audited σ ρ) :
    (a.recordTurn time finished).router = (a.router.recordTurn time finished).2 := by
  unfold recordTurn Router.recordTurn
  cases finished with
  | none => rfl
  | some turn =>
    cases h : a.router.contexts with
    | none => rfl
    | some contexts => exact router_submitItems _ _ a

theorem steps_follow (c : Call) (decision : Decision) (a : Audited σ ρ) :
    Steps a (a.follow c decision) := by
  cases decision with
  | dropped => exact .refl
  | recorded finished =>
    exact (steps_recordEvent _ c.event c.data a).trans (steps_recordTurn _ finished _)

theorem steps_sendPending (a : Audited σ ρ) : Steps a a.sendPending := by
  unfold sendPending
  split
  · exact steps_drain a
  · exact .refl

theorem router_sendPending (a : Audited σ ρ) : a.sendPending.router = a.router.sendPending.2 := by
  unfold sendPending Router.sendPending
  split <;> rfl

theorem steps_catchUp (a : Audited σ ρ) : Steps a a.catchUp := by
  have h := (steps_sendPending a).tail
    (.report (Router.sentReport a.router.sendPending.1 a.router.sendPending.2.outbox.buffer.size))
  rw [become, router_sendPending] at h
  exact h

theorem steps_cleanUp (time : Int64) (a : Audited σ ρ) : Steps a (a.cleanUp time) := by
  let flushed := a.become { a.router with
    pipeline := { a.router.pipeline with turns := a.router.pipeline.turns.flush.2 } }
  let sent := (flushed.recordTurn time a.router.pipeline.turns.flush.1).sendPending
  have hsent : Steps a sent :=
    .head (.think _) ((steps_recordTurn time _ flushed).trans (steps_sendPending _))
  have hrouter : sent.router =
      (flushed.router.recordTurn time a.router.pipeline.turns.flush.1).2.sendPending.2 := by
    rw [router_sendPending, router_recordTurn]
  have hclosed (left failed : Log.Journal) : Steps a ⟨((sent.router.report left).withStore
      (ContextStore.close sent.router.outbox.store)).report failed, sent.ledger⟩ :=
    ((hsent.tail (.report left)).tail .close).tail (.report failed)
  rw [hrouter] at hclosed
  exact hclosed _ _

theorem steps_connect (success : Log.Event) (a : Audited σ ρ) :
    Steps a (a.become (a.router.connect success).2) :=
  .tail (.single .connect) (.report _)

theorem steps_connectFirst (a : Audited σ ρ) :
    Steps a (a.become a.router.connectFirst.2) := by
  unfold Router.connectFirst
  split
  · exact .refl
  · exact steps_connect _ a

theorem steps_resolve (a : Audited σ ρ) : Steps a (a.become a.router.resolve.2) :=
  .tail (.single .resolve) (.report _)

theorem contexts_connectFirst (r : Router σ ρ) : r.connectFirst.2.contexts = r.contexts := by
  unfold Router.connectFirst
  split <;> rfl

variable [RegistryPublisher ρ]

theorem steps_publishBundle (a : Audited σ ρ) : Steps a (a.become a.router.publishBundle) := by
  unfold Router.publishBundle
  split
  · split
    · exact .tail (.single (.publish _ _)) (.report _)
    · exact .refl
  · exact .refl

omit [ContextStore σ] in
theorem contexts_publishBundle (r : Router σ ρ) : r.publishBundle.contexts = r.contexts := by
  unfold Router.publishBundle
  split
  · split <;> rfl
  · rfl

theorem steps_setUp (time : Int64) (a : Audited σ ρ) : Steps a (a.setUp time) := by
  unfold setUp Router.setUp
  cases hcontexts : a.router.contexts with
  | some contexts => exact .refl
  | none =>
    have hconnect := steps_connectFirst a
    have hnone := contexts_connectFirst a.router
    rcases hfirst : a.router.connectFirst with ⟨e | ⟨⟩, connected⟩
    · rw [hfirst] at hconnect
      exact hconnect
    · rw [hfirst] at hconnect hnone
      have hresolve : Steps a (a.become connected.publishBundle.resolve.2) :=
        (hconnect.trans (steps_publishBundle (a.become connected))).trans
          (steps_resolve (a.become connected.publishBundle))
      have hopen : connected.publishBundle.resolve.2.contexts = none :=
        (contexts_publishBundle connected).trans (hnone.trans hcontexts)
      rcases hsecond : connected.publishBundle.resolve with ⟨e | contexts, resolved⟩
      · rw [hsecond] at hresolve
        simp only [hsecond]
        exact hresolve
      · rw [hsecond] at hresolve hopen
        simp only [hsecond]
        exact hresolve.trans (steps_openContexts contexts time (a.become resolved) hopen)

theorem steps_prepare (time : Int64) (a : Audited σ ρ) : Steps a (a.prepare time) := by
  unfold prepare Router.prepare
  cases hcontexts : a.router.contexts with
  | none => exact steps_setUp time a
  | some contexts =>
    simp only [Option.isNone_some, Bool.false_eq_true, ↓reduceIte]
    split
    · exact .refl
    · exact steps_connect _ a

/-- After its preparation a call follows the decision about its event, and reports. -/
theorem handle_eq (c : Call) (a : Audited σ ρ) :
    let ready := (a.prepare c.readings.setUp).catchUp
    let (decision, pipeline) := ready.router.pipeline.step c.readings.steady c.event c.data
    let followed := (ready.become { ready.router with pipeline }).follow c decision
    ∃ journal, a.handle c = followed.become (followed.router.report journal) := by
  intro ready
  rcases hstep : ready.router.pipeline.step c.readings.steady c.event c.data with
    ⟨decision, pipeline⟩
  unfold handle Router.handle Router.handleEvent
  simp only [ready] at hstep
  have hrouter : (a.router.prepare c.readings.setUp).2.catchUp = ready.router := rfl
  simp only [hrouter, hstep, ready]
  cases decision with
  | dropped => exact ⟨_, rfl⟩
  | recorded finished =>
    simp only [follow, become, router_recordTurn]
    exact ⟨_, rfl⟩

/-- After its preparation a call follows one decision. -/
theorem handle_follows (c : Call) (a : Audited σ ρ) :
    let ready := (a.prepare c.readings.setUp).catchUp
    ∃ decision pipeline journal,
      ready.router.pipeline.step c.readings.steady c.event c.data = (decision, pipeline) ∧
        let followed := (ready.become { ready.router with pipeline }).follow c decision
        a.handle c = followed.become (followed.router.report journal) := by
  intro ready
  have hhandle := handle_eq c a
  rcases hstep : ready.router.pipeline.step c.readings.steady c.event c.data with
    ⟨decision, pipeline⟩
  simp only [ready] at hstep
  simp only [hstep] at hhandle
  obtain ⟨journal, hhandle⟩ := hhandle
  exact ⟨decision, pipeline, journal, rfl, hhandle⟩

/-- The rest of a call, once it is prepared. -/
theorem steps_handle_of_prepared (c : Call) (a : Audited σ ρ) :
    Steps (a.prepare c.readings.setUp) (a.handle c) := by
  obtain ⟨journal, hhandle⟩ := handle_eq c a
  rw [hhandle]
  exact (((steps_catchUp _).tail (.think _)).trans (steps_follow c _ _)).tail (.report journal)

theorem steps_handle (c : Call) (a : Audited σ ρ) : Steps a (a.handle c) :=
  (steps_prepare _ a).trans (steps_handle_of_prepared c a)

/-- Every action of a router's own is a sequence of steps. -/
theorem steps_act (change : κ → σ → σ) (a : Audited σ ρ) (action : Action κ) :
    Steps a (a.act change action) ∨
      ∃ k, a.act change action =
        a.become (a.router.withStore (change k a.router.outbox.store)) := by
  cases action with
  | setUp time => exact .inl (steps_setUp time a)
  | event c => exact .inl (steps_handle c a)
  | cleanUp time => exact .inl (steps_cleanUp time a)
  | outside k => exact .inr ⟨k, rfl⟩

/-- What every step and every change outside keeps, a run keeps. -/
theorem run_keeps {Q : Audited σ ρ → Prop} {change : κ → σ → σ} {a : Audited σ ρ}
    (hstep : ∀ {x y}, Step x y → Q x → Q y)
    (hchange : ∀ {x} k, Q x → Q (x.become (x.router.withStore (change k x.router.outbox.store))))
    (ha : Q a) (actions : List (Action κ)) : Q (a.run change actions) := by
  induction actions generalizing a with
  | nil => exact ha
  | cons action rest ih =>
    refine ih ?_
    rcases steps_act change a action with h | ⟨k, h⟩
    · exact h.keeps hstep ha
    · rw [h]
      exact hchange k ha

end Audited

end SessionRecorder
