import SessionRecorder.Proofs.StoreCalls
import SessionRecorder.Proofs.Submissions

/-!
Which calls a router makes on its store. Every part of its work is told by the kind of the calls
that it makes (`Router.Calls`). Only to set contexts up are any created, and nothing is appended
before they are there (`Audited.Attempt`). With contexts a call connects the store at most, and
appends (`Router.calls_handle`).
-/

namespace SessionRecorder

namespace StoreCall

/-- Whether the call makes a new context. -/
def isCreation : StoreCall → Bool
  | create _ | fork _ => true
  | connect | close | head _ | append .. => false

/-- Whether the call appends a record. -/
def isAppend : StoreCall → Bool
  | append .. => true
  | connect | close | create _ | fork _ | head _ => false

theorem isAppend_of_isCreation {call : StoreCall} (h : call.isCreation = true) :
    call.isAppend = false := by
  cases call with
  | append parent d => cases h
  | _ => rfl

end StoreCall

section

variable {σ : Type} [ContextStore σ] {kind : StoreCall → Prop} {s t u : σ}

/-- One state of a store comes from another by calls of a kind. -/
def Reaches (kind : StoreCall → Prop) (s t : σ) : Prop :=
  ∃ calls : List StoreCall, (∀ call ∈ calls, kind call) ∧ t = StoreCall.run calls s

theorem Reaches.refl (s : σ) : Reaches kind s s := ⟨[], by simp, rfl⟩

theorem Reaches.trans (hst : Reaches kind s t) (htu : Reaches kind t u) : Reaches kind s u := by
  obtain ⟨first, hfirst, rfl⟩ := hst
  obtain ⟨second, hsecond, rfl⟩ := htu
  refine ⟨first ++ second, ?_, ?_⟩
  · intro call hcall
    exact (List.mem_append.1 hcall).elim (hfirst call) (hsecond call)
  · exact List.foldl_append.symm

theorem Reaches.single {call : StoreCall} (h : kind call) (s : σ) :
    Reaches kind s (call.perform s).2 :=
  ⟨[call], by simpa using h, rfl⟩

theorem Reaches.mono {other : StoreCall → Prop} (h : Reaches kind s t)
    (hkind : ∀ call, kind call → other call) : Reaches other s t := by
  obtain ⟨calls, hcalls, rfl⟩ := h
  exact ⟨calls, fun call hcall => hkind call (hcalls call hcall), rfl⟩

/-- What every call of a kind keeps holds in every state that such calls reach. -/
theorem Reaches.keeps {P : σ → Prop} (h : Reaches kind s t)
    (hstep : ∀ call s, kind call → P s → P (call.perform s).2) (hs : P s) : P t := by
  obtain ⟨calls, hcalls, rfl⟩ := h
  induction calls generalizing s with
  | nil => exact hs
  | cons call rest ih =>
    obtain ⟨hfirst, hrest⟩ := List.forall_mem_cons.1 hcalls
    exact ih (hstep call s hfirst hs) hrest

/-! ## The calls of an outbox -/

namespace Outbox

theorem reaches_deliver (happend : ∀ d, kind (.append 0 d)) (d : Delivery) (o : Outbox σ) :
    Reaches kind o.store (o.deliver d).2.store := by
  unfold deliver
  split
  · exact .refl _
  · have h : Reaches kind o.store (ContextStore.append 0 d o.store).2 := .single (happend d) _
    rcases happ : ContextStore.append 0 d o.store with ⟨e | ack, next⟩ <;> rw [happ] at h
    · simp only
      split <;> exact h
    · exact h

theorem reaches_drainRecords (happend : ∀ d, kind (.append 0 d)) (run : Nat) (ds : List Delivery)
    (s : σ) : Reaches kind s (drainRecords run ds s).store := by
  induction ds generalizing run s with
  | nil => exact .refl s
  | cons d rest ih =>
    have h : Reaches kind s (ContextStore.append 0 d s).2 := .single (happend d) s
    rcases happ : ContextStore.append 0 d s with ⟨e | ack, next⟩ <;> rw [happ] at h
    · cases he : e.isProtocol with
      | true =>
        obtain ⟨_, hdrain⟩ := drainRecords_refused run rest happ he
        rw [hdrain]
        exact h.trans (ih 0 next)
      | false =>
        obtain ⟨_, hdrain⟩ := drainRecords_stopped run rest happ he
        rw [hdrain]
        exact h
    · rw [drainRecords_ok run rest happ]
      exact h.trans (ih (run + 1) next)

end Outbox

end

/-- A resolver that makes contexts by calls of the store, and does nothing else with it. -/
def Resolver.Creates {σ : Type} [ContextStore σ] (resolver : Resolver σ) : Prop :=
  ∀ l s, Reaches (·.isCreation = true) s (resolver l s).2.2

namespace Resolver

variable {σ : Type} [ContextStore σ]

theorem createNew_creates : Creates (createNew : Resolver σ) := by
  intro l s
  have hcreate (t : σ) : Reaches (·.isCreation = true) t (ContextStore.create 0 t).2 :=
    @Reaches.single σ _ (·.isCreation = true) (.create 0) rfl t
  have hfirst := hcreate s
  unfold createNew
  rcases h : ContextStore.create 0 s with ⟨e | turns, next⟩ <;> rw [h] at hfirst
  · exact hfirst
  · have hsecond := hcreate next
    rcases h' : ContextStore.create 0 next with ⟨e | events, last⟩ <;>
      rw [h'] at hsecond <;>
      simp only [h'] <;>
      exact hfirst.trans hsecond

theorem forkTurns_creates (base : UInt64) : Creates (forkTurns base : Resolver σ) := by
  intro l s
  have hfork : Reaches (·.isCreation = true) s (ContextStore.fork base s).2 :=
    @Reaches.single σ _ (·.isCreation = true) (.fork base) rfl s
  unfold forkTurns
  rcases h : ContextStore.fork base s with ⟨e | head, next⟩ <;> rw [h] at hfork
  · exact hfork
  · exact hfork.trans (createNew_creates l next)

theorem fixed_creates (contexts : SessionContexts) : Creates (fixed contexts : Resolver σ) :=
  fun _ s => .refl s

theorem failing_creates (e : StoreError) : Creates (failing e : Resolver σ) := fun _ s => .refl s

end Resolver

/-! ## The calls of a router -/

/-- The work between two states of a router makes calls of a kind. It leaves the contexts as they
are, and all that concerns the bundle. -/
structure Router.Calls {σ ρ : Type} [ContextStore σ] (kind : StoreCall → Prop) (r s : Router σ ρ) :
    Prop where
  alike : r.Alike s
  contexts : s.contexts = r.contexts
  publisher : s.publisher = r.publisher
  published : s.published = r.published
  store : Reaches kind r.outbox.store s.outbox.store

namespace Router

variable {σ ρ : Type} [ContextStore σ] {kind : StoreCall → Prop} {r s t : Router σ ρ}

theorem Calls.refl (r : Router σ ρ) : Calls kind r r :=
  ⟨⟨rfl, rfl, rfl, rfl⟩, rfl, rfl, rfl, .refl _⟩

theorem Calls.trans (hrs : Calls kind r s) (hst : Calls kind s t) : Calls kind r t :=
  ⟨hrs.alike.trans hst.alike, hst.contexts.trans hrs.contexts, hst.publisher.trans hrs.publisher,
    hst.published.trans hrs.published, hrs.store.trans hst.store⟩

theorem Calls.report (h : Calls kind r s) (journal : Log.Journal) :
    Calls kind r (s.report journal) :=
  ⟨h.alike.trans ⟨rfl, rfl, rfl, rfl⟩, h.contexts, h.publisher, h.published, h.store⟩

theorem Calls.close (h : Calls kind r s) (hclose : kind .close) :
    Calls kind r (s.withStore (ContextStore.close s.outbox.store)) :=
  ⟨h.alike.trans ⟨rfl, rfl, rfl, rfl⟩, h.contexts, h.publisher, h.published,
    h.store.trans (.single hclose _)⟩

theorem calls_pipeline (pipeline : Pipeline) (r : Router σ ρ) :
    Calls kind r { r with pipeline } :=
  ⟨⟨rfl, rfl, rfl, rfl⟩, rfl, rfl, rfl, .refl _⟩

omit [ContextStore σ] in
/-- To publish the bundle changes nothing but what concerns it, and reports. -/
theorem publishBundle_eq [RegistryPublisher ρ] (r : Router σ ρ) :
    ∃ publisher published journal,
      r.publishBundle = ({ r with publisher, published } : Router σ ρ).report journal := by
  have hnothing : r = ({ r with publisher := r.publisher } : Router σ ρ).report [] := by
    simp only [Router.report, Outbox.report, List.append_nil]
  unfold publishBundle
  split
  · split
    · exact ⟨_, _, _, rfl⟩
    · exact ⟨_, _, _, hnothing⟩
  · exact ⟨_, _, _, hnothing⟩

theorem calls_resolve (r : Router σ ρ)
    (h : Reaches kind r.outbox.store (r.resolver r.lineage r.outbox.store).2.2) :
    Calls kind r r.resolve.2 :=
  ⟨⟨rfl, rfl, rfl, rfl⟩, rfl, rfl, rfl, h⟩

theorem calls_connect (hconnect : kind .connect) (success : Log.Event) (r : Router σ ρ) :
    Calls kind r (r.connect success).2 :=
  ⟨⟨rfl, rfl, rfl, rfl⟩, rfl, rfl, rfl, .single hconnect _⟩

theorem calls_connectFirst (hconnect : kind .connect) (r : Router σ ρ) :
    Calls kind r r.connectFirst.2 := by
  unfold connectFirst
  split
  · exact .refl r
  · exact calls_connect hconnect _ r

/-- At the end the turn in progress is recorded, what waits is sent, and the store is closed. -/
theorem cleanUp_eq (time : Int64) (r : Router σ ρ) :
    let flushed : Router σ ρ := { r with
      pipeline := { r.pipeline with turns := r.pipeline.turns.flush.2 } }
    let sent := (flushed.recordTurn time r.pipeline.turns.flush.1).2.sendPending.2
    ∃ left failed, r.cleanUp time =
      ((sent.report left).withStore (ContextStore.close sent.outbox.store)).report failed :=
  ⟨_, _, rfl⟩

section

variable (happend : ∀ d, kind (.append 0 d))

include happend

theorem calls_submit (context : UInt64) (record : Record) (r : Router σ ρ) :
    Calls kind r (r.submit context record).2 :=
  ⟨⟨rfl, rfl, rfl, rfl⟩, rfl, rfl, rfl, Outbox.reaches_deliver happend _ r.outbox⟩

theorem calls_openContext (contexts : SessionContexts) (context : UInt64) (label : String)
    (time : Int64) (r : Router σ ρ) : Calls kind r (r.openContext contexts context label time) :=
  (calls_submit happend context _ r).report _

theorem calls_openContexts (contexts : SessionContexts) (time : Int64) (r : Router σ ρ) :
    Calls kind { r with contexts := some contexts } (r.openContexts contexts time) :=
  (calls_openContext happend contexts contexts.turns "Turns" time _).trans
    (calls_openContext happend contexts contexts.events "Events" time _)

theorem calls_recordEvent (time : Int64) (event : String) (data : Json) (r : Router σ ρ) :
    Calls kind r (r.recordEvent time event data).2 := by
  unfold recordEvent
  split
  · exact .refl r
  · exact calls_submit happend _ _ r

theorem calls_submitItems (context : UInt64) (items : List Payload) (r : Router σ ρ) :
    Calls kind r (submitItems context items r).2 := by
  induction items generalizing r with
  | nil => exact .refl r
  | cons item rest ih => exact (calls_submit happend context _ r).trans (ih _)

theorem calls_recordTurn (time : Int64) (finished : Option Turn) (r : Router σ ρ) :
    Calls kind r (r.recordTurn time finished).2 := by
  unfold recordTurn
  split
  · exact .refl r
  · split
    · exact .refl r
    · exact calls_submitItems happend _ _ r

theorem calls_sendPending (r : Router σ ρ) : Calls kind r r.sendPending.2 := by
  unfold sendPending
  split
  · exact ⟨⟨rfl, rfl, rfl, rfl⟩, rfl, rfl, rfl, Outbox.reaches_drainRecords happend 0 _ _⟩
  · exact .refl r

theorem calls_catchUp (r : Router σ ρ) : Calls kind r r.catchUp :=
  (calls_sendPending happend r).report _

theorem calls_cleanUp (hclose : kind .close) (time : Int64) (r : Router σ ρ) :
    Calls kind r (r.cleanUp time) := by
  obtain ⟨left, failed, hcleaned⟩ := r.cleanUp_eq time
  have hflushed : Calls kind r { r with
      pipeline := { r.pipeline with turns := r.pipeline.turns.flush.2 } } := calls_pipeline _ r
  rw [hcleaned]
  exact ((((hflushed.trans (calls_recordTurn happend time _ _)).trans
    (calls_sendPending happend _)).report left).close hclose).report failed

end

variable [RegistryPublisher ρ]

/-- Behind its preparation a call appends at most. -/
theorem calls_handle_of_prepared (happend : ∀ d, kind (.append 0 d)) (c : Call)
    (r : Router σ ρ) : Calls kind (r.prepare c.readings.setUp).2 (r.handle c) := by
  let ready := (r.prepare c.readings.setUp).2.catchUp
  let decided : Router σ ρ :=
    { ready with pipeline := (ready.pipeline.step c.readings.steady c.event c.data).2 }
  have hdecided : Calls kind (r.prepare c.readings.setUp).2 decided :=
    (calls_catchUp happend _).trans (calls_pipeline _ ready)
  unfold handle handleEvent
  rcases hstep : ready.pipeline.step c.readings.steady c.event c.data with ⟨decision, pipeline⟩
  have hpipeline : decided = { ready with pipeline } := by simp only [decided, hstep]
  rw [hpipeline] at hdecided
  simp only [show (r.prepare c.readings.setUp).2.catchUp = ready from rfl, hstep]
  cases decision with
  | dropped => exact hdecided.report _
  | recorded finished =>
    have hevent := calls_recordEvent happend c.readings.event c.event c.data
      { ready with pipeline }
    exact ((hdecided.trans hevent).trans (calls_recordTurn happend _ finished _)).report _

/-- With contexts a call connects the store and appends, and does no more with it. -/
theorem calls_handle (hconnect : kind .connect) (happend : ∀ d, kind (.append 0 d)) (c : Call)
    (h : r.contexts.isSome) : Calls kind r (r.handle c) := by
  refine Calls.trans ?_ (calls_handle_of_prepared happend c r)
  obtain ⟨contexts, hcontexts⟩ := Option.isSome_iff_exists.1 h
  unfold prepare
  simp only [hcontexts, Option.isNone_some, Bool.false_eq_true, ↓reduceIte]
  split
  · exact .refl r
  · exact calls_connect hconnect _ r

/-- Actions of a router that has contexts make no new ones. -/
theorem calls_act {κ : Type} (change : κ → σ → σ) (action : Action κ) (h : r.contexts.isSome) :
    r.Calls (·.isCreation = false) (r.act change action) ∨
      ∃ k, r.act change action = r.withStore (change k r.outbox.store) := by
  cases action with
  | setUp time =>
    have hnothing : r.act change (.setUp time) = r := by simp only [act, setUp, h, ↓reduceIte]
    rw [hnothing]
    exact .inl (.refl r)
  | event c => exact .inl (calls_handle (by rfl) (fun _ => by rfl) c h)
  | cleanUp time => exact .inl (calls_cleanUp (fun _ => by rfl) (by rfl) time r)
  | outside k => exact .inr ⟨k, rfl⟩

end Router

/-! ## Without contexts -/

namespace Router

variable {σ ρ : Type} [ContextStore σ] {r : Router σ ρ}

theorem recordTurn_unopened (time : Int64) (finished : Option Turn) (h : r.contexts = none) :
    (r.recordTurn time finished).2 = r := by
  unfold recordTurn
  cases finished with
  | none => rfl
  | some turn => simp only [h]

theorem sendPending_of_empty (h : r.outbox.buffer.isEmpty = true) : r.sendPending = (0, r) := by
  simp only [sendPending, h, Bool.not_true, Bool.and_false, Bool.false_eq_true, ↓reduceIte]

/-- At the end of a session without contexts, and with nothing that waits, the store is closed. -/
theorem cleanUp_unopened (time : Int64) (hcontexts : r.contexts = none)
    (hempty : r.outbox.buffer.isEmpty = true) :
    ∃ pipeline left failed, r.cleanUp time =
      ((({ r with pipeline } : Router σ ρ).report left).withStore
        (ContextStore.close r.outbox.store)).report failed := by
  let flushed : Router σ ρ := { r with
    pipeline := { r.pipeline with turns := r.pipeline.turns.flush.2 } }
  have hturn : (flushed.recordTurn time r.pipeline.turns.flush.1).2 = flushed :=
    recordTurn_unopened time _ hcontexts
  have hsend : flushed.sendPending = (0, flushed) := sendPending_of_empty hempty
  obtain ⟨left, failed, hcleaned⟩ := r.cleanUp_eq time
  simp only [flushed] at hturn hsend
  simp only [hturn, hsend] at hcleaned
  exact ⟨_, left, failed, hcleaned⟩

end Router

/-! ## Attempts to set contexts up -/

namespace Audited

variable {σ ρ : Type} [ContextStore σ] [RegistryPublisher ρ]

/-- How an attempt ends that finds no contexts. -/
inductive Attempt (time : Int64) (a : Audited σ ρ) :
    Except RouterError Unit → Audited σ ρ → Prop where
  /-- The store cannot be connected. -/
  | unconnected {e : StoreError} {r : Router σ ρ}
      (hconnect : a.router.connectFirst = (.error e, r)) :
      Attempt time a (.error (.store e)) (a.become r)
  /-- The store is connected, and gives no contexts. -/
  | unresolved {e : StoreError} {r s : Router σ ρ} (hconnect : a.router.connectFirst = (.ok (), r))
      (hresolve : r.publishBundle.resolve = (.error e, s)) :
      Attempt time a (.error (.store e)) (a.become s)
  /-- The store gives contexts, which are opened. -/
  | opened {contexts : SessionContexts} {r s : Router σ ρ}
      (hconnect : a.router.connectFirst = (.ok (), r))
      (hresolve : r.publishBundle.resolve = (.ok contexts, s)) :
      Attempt time a (.ok ()) ((a.become s).openContexts contexts time)

theorem attempt (time : Int64) {a : Audited σ ρ} (h : a.router.contexts = none) :
    Attempt time a (a.router.setUp time).1 (a.setUp time) := by
  unfold setUp Router.setUp
  simp only [h, Option.isSome_none, Bool.false_eq_true, ↓reduceIte]
  rcases hconnect : a.router.connectFirst with ⟨e | ⟨⟩, r⟩
  · exact .unconnected hconnect
  · rcases hresolve : r.publishBundle.resolve with ⟨e | contexts, s⟩
    · simp only [hresolve]
      exact .unresolved hconnect hresolve
    · simp only [hresolve]
      exact .opened hconnect hresolve

end Audited

/-! ## Stores that note their calls -/

/-- A store with the calls that were made on it, oldest first. -/
structure NotedStore (σ : Type) where
  store : σ
  calls : List StoreCall := []

namespace NotedStore

variable {σ κ : Type}

/-- The result of a call of the store, with the call noted. -/
def note {α : Type} (call : StoreCall) (s : NotedStore σ) (made : α × σ) : α × NotedStore σ :=
  (made.1, ⟨made.2, s.calls ++ [call]⟩)

/-- A change outside is no call. -/
def change (change : κ → σ → σ) (k : κ) (s : NotedStore σ) : NotedStore σ :=
  { s with store := change k s.store }

variable [ContextStore σ]

instance : ContextStore (NotedStore σ) where
  isConnected s := ContextStore.isConnected s.store
  clientTag s := ContextStore.clientTag s.store
  connect s := s.note .connect (ContextStore.connect s.store)
  create base s := s.note (.create base) (ContextStore.create base s.store)
  fork base s := s.note (.fork base) (ContextStore.fork base s.store)
  head context s := s.note (.head context) (ContextStore.head context s.store)
  append parent d s := s.note (.append parent d) (ContextStore.append parent d s.store)
  close s := ⟨ContextStore.close s.store, s.calls ++ [.close]⟩

/-- To note the calls changes nothing else. -/
theorem perform_eq (call : StoreCall) (s : NotedStore σ) :
    call.perform s =
      ((call.perform s.store).1, ⟨(call.perform s.store).2, s.calls ++ [call]⟩) := by
  cases call <;> rfl

theorem calls_run (calls : List StoreCall) (s : NotedStore σ) :
    (StoreCall.run calls s).calls = s.calls ++ calls := by
  induction calls generalizing s with
  | nil => exact (List.append_nil _).symm
  | cons call rest ih =>
    change (StoreCall.run rest (call.perform s).2).calls = _
    rw [ih, perform_eq]
    exact List.append_assoc _ _ _

/-- The calls that lead from one state to another are those noted in between. -/
theorem calls_of_reaches {kind : StoreCall → Prop} {s t : NotedStore σ} (h : Reaches kind s t) :
    ∃ made, t.calls = s.calls ++ made ∧ ∀ call ∈ made, kind call := by
  obtain ⟨calls, hcalls, rfl⟩ := h
  exact ⟨calls, calls_run calls s, hcalls⟩

end NotedStore

end SessionRecorder
