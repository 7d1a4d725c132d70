import SessionRecorder.Proofs.Submissions
import SessionRecorder.Store.Memory

/-!
Calls over a store in memory that has no faults. The first of them opens two new
contexts (`prepare_fresh`), and every one leaves nothing waiting (`settled_handle`).
-/

namespace SessionRecorder

/-- The contexts of a session that come next in a store with `n` of them. -/
def SessionContexts.newest (n : Nat) : SessionContexts :=
  ⟨.ofNat (n + 1), .ofNat (n + 2), none, none⟩

namespace MemoryStore

/-- The store has no faults, though it may reject records. -/
structure Sound (s : MemoryStore) : Prop where
  connects : s.failsConnect = false
  appends : s.failsAppends = false
  creates : s.failsCreate = false
  limit : s.appendLimit = none

variable {s : MemoryStore}

theorem connect_eq (h : s.failsConnect = false) :
    s.connect = (.ok (), { s with connects := s.connects + 1, connected := true }) := by
  simp only [connect, h, Bool.false_eq_true, ↓reduceIte]

theorem createNew_eq (l : Lineage) (hc : s.connected = true) (h : s.failsCreate = false) :
    ∃ journal, Resolver.createNew l s =
      (.ok (.newest s.contexts), journal, { s with contexts := s.contexts + 2 }) := by
  have hcreate (s : MemoryStore) (hc : s.connected = true) (h : s.failsCreate = false) :
      ContextStore.create 0 s =
        (.ok ⟨.ofNat (s.contexts + 1), 0, 0⟩, { s with contexts := s.contexts + 1 }) := by
    change s.newContext 0 = _
    simp only [newContext, hc, h, Bool.not_true, Bool.false_eq_true, ↓reduceIte]
  unfold Resolver.createNew
  rw [hcreate s hc h]
  simp only
  rw [hcreate _ (by exact hc) (by exact h)]
  exact ⟨_, rfl⟩

/-- A sound store that is connected stays so, and fails to append only what it refuses. -/
theorem Sound.append {parent : UInt64} {d : Delivery} {result : Except StoreError ContextHead}
    {next : MemoryStore} (h : s.Sound) (hc : s.connected = true)
    (happ : s.append parent d = (result, next)) :
    next.Sound ∧ next.connected = true ∧ ∀ e, result = .error e → e.isProtocol = true := by
  obtain ⟨hconnects, happends, hcreates, hlimit⟩ := h
  rcases append_cases parent d s with ⟨hn, _⟩ | ⟨_, _, ha⟩ | ⟨_, _, hl, _⟩ | ⟨_, _, _, _, ha⟩
  · rw [hc] at hn
    cases hn
  · rw [ha, Prod.mk.injEq] at happ
    obtain ⟨rfl, rfl⟩ := happ
    refine ⟨⟨hconnects, happends, hcreates, hlimit⟩, hc, ?_⟩
    rintro e ⟨⟩
    rfl
  · simp [losesAppend, happends, hlimit] at hl
  · rw [ha, Prod.mk.injEq] at happ
    obtain ⟨rfl, rfl⟩ := happ
    refine ⟨⟨hconnects, happends, hcreates, hlimit⟩, hc, ?_⟩
    rintro e ⟨⟩

theorem tag_of_append {parent : UInt64} {d : Delivery} {result : Except StoreError ContextHead}
    {next : MemoryStore} (happ : s.append parent d = (result, next)) : next.tag = s.tag := by
  rcases append_cases parent d s with ⟨_, ha⟩ | ⟨_, _, ha⟩ | ⟨_, _, _, ha⟩ | ⟨_, _, _, _, ha⟩ <;>
    rw [ha, Prod.mk.injEq] at happ <;>
    rw [← happ.2]

end MemoryStore

namespace Router

variable {ρ : Type} {lost : Nat} {r : Router MemoryStore ρ}

/-- The store is connected and sound, and nothing waits for it; `lost` records were let
go before. -/
structure Settled (lost : Nat) (r : Router MemoryStore ρ) : Prop where
  connected : r.outbox.store.connected = true
  sound : r.outbox.store.Sound
  empty : r.outbox.buffer.records = []
  overflow : r.outbox.buffer.overflow = lost

theorem Settled.report (journal : Log.Journal) (h : r.Settled lost) :
    (r.report journal).Settled lost :=
  ⟨h.connected, h.sound, h.empty, h.overflow⟩

theorem Settled.submit (context : UInt64) (record : Record) (h : r.Settled lost) :
    (r.submit context record).2.Settled lost := by
  have hw : r.outbox.waits = false := by
    have hc : r.outbox.isConnected = true := h.connected
    simp [Outbox.waits, hc, RetryBuffer.isEmpty, h.empty]
  unfold Router.submit Outbox.submit Outbox.deliver
  rcases happ : ContextStore.append 0 ⟨context, record.type, record.payload.serialize⟩
    r.outbox.store with ⟨e | ack, store⟩
  · obtain ⟨hsound, hconnected, hanswer⟩ := h.sound.append h.connected happ
    simp only [hw, hanswer e rfl, Bool.false_eq_true, ↓reduceIte]
    exact ⟨hconnected, hsound, h.empty, h.overflow⟩
  · obtain ⟨hsound, hconnected, _⟩ := h.sound.append h.connected happ
    simp only [hw, Bool.false_eq_true, ↓reduceIte]
    exact ⟨hconnected, hsound, h.empty, h.overflow⟩

theorem Settled.openContexts (contexts : SessionContexts) (time : Int64) (h : r.Settled lost) :
    (r.openContexts contexts time).Settled lost := by
  have hadopt : Settled lost { r with contexts := some contexts } :=
    ⟨h.connected, h.sound, h.empty, h.overflow⟩
  unfold Router.openContexts Router.openContext
  exact (((hadopt.submit _ _).report _).submit _ _).report _

theorem Settled.recordEvent (time : Int64) (event : String) (data : Json) (h : r.Settled lost) :
    (r.recordEvent time event data).2.Settled lost := by
  unfold Router.recordEvent
  split
  · exact h
  · exact h.submit _ _

theorem Settled.submitItems (context : UInt64) (items : List Payload) (h : r.Settled lost) :
    (r.submitItems context items).2.Settled lost := by
  induction items generalizing r with
  | nil => exact h
  | cons item rest ih => exact ih (h.submit context _)

theorem Settled.recordTurn (time : Int64) (finished : Option Turn) (h : r.Settled lost) :
    (r.recordTurn time finished).2.Settled lost := by
  unfold Router.recordTurn
  split
  · exact h
  · split
    · exact h
    · exact h.submitItems _ _

/-- A sound store takes all that waits. -/
theorem drainRecords_sound (run : Nat) (ds : List Delivery) {s : MemoryStore} (h : s.Sound)
    (hc : s.connected = true) :
    (Outbox.drainRecords run ds s).store.Sound ∧
      (Outbox.drainRecords run ds s).store.connected = true ∧
      (Outbox.drainRecords run ds s).remaining = [] := by
  induction ds generalizing run s with
  | nil => exact ⟨h, hc, rfl⟩
  | cons d rest ih =>
    rcases happ : ContextStore.append 0 d s with ⟨e | ack, next⟩
    · obtain ⟨hsound, hconnected, hanswer⟩ := h.append hc happ
      obtain ⟨journal, hdrain⟩ := Outbox.drainRecords_refused run rest happ (hanswer e rfl)
      rw [hdrain]
      exact ih 0 hsound hconnected
    · obtain ⟨hsound, hconnected, _⟩ := h.append hc happ
      rw [Outbox.drainRecords_ok run rest happ]
      exact ih (run + 1) hsound hconnected

theorem settled_catchUp (hc : r.outbox.store.connected = true) (hs : r.outbox.store.Sound)
    (ho : r.outbox.buffer.overflow = lost) : r.catchUp.Settled lost := by
  unfold Router.catchUp Router.sendPending
  have hconnected : r.isConnected = true := hc
  cases hempty : r.outbox.buffer.isEmpty with
  | true =>
    simp only [hconnected, Bool.not_true, Bool.and_false, Bool.false_eq_true, ↓reduceIte]
    exact Settled.report _ ⟨hc, hs, by simpa [RetryBuffer.isEmpty] using hempty, ho⟩
  | false =>
    simp only [hconnected, Bool.not_false, Bool.and_true, ↓reduceIte]
    obtain ⟨hsound, hdrained, hnone⟩ := drainRecords_sound 0 r.outbox.buffer.records hs hc
    exact Settled.report _ ⟨hdrained, hsound, hnone, ho⟩

/-! ## The contexts of a new session -/

/-- The router is as before but for its connection and its reports. -/
structure Reached (r s : Router MemoryStore ρ) : Prop where
  alike : r.Alike s
  contexts : s.contexts = r.contexts
  buffer : s.outbox.buffer = r.outbox.buffer
  store : ∃ connects, s.outbox.store = { r.outbox.store with connects, connected := true }

theorem reached_connect (success : Log.Event) (h : r.outbox.store.failsConnect = false) :
    (r.connect success).1 = .ok () ∧ r.Reached (r.connect success).2 := by
  have hconnect : ContextStore.connect r.outbox.store = _ := MemoryStore.connect_eq h
  unfold Router.connect
  rw [hconnect]
  exact ⟨rfl, ⟨rfl, rfl, rfl, rfl⟩, rfl, rfl, _, rfl⟩

theorem reached_connectFirst (h : r.outbox.store.failsConnect = false) :
    r.connectFirst.1 = .ok () ∧ r.Reached r.connectFirst.2 := by
  unfold Router.connectFirst
  cases hc : r.isConnected with
  | true =>
    have hstore : r.outbox.store = { r.outbox.store with connected := true } := by
      rw [← show r.outbox.store.connected = true from hc]
    exact ⟨rfl, ⟨rfl, rfl, rfl, rfl⟩, rfl, rfl, _, hstore⟩
  | false =>
    simp only [Bool.false_eq_true, ↓reduceIte]
    exact reached_connect _ h

variable [RegistryPublisher ρ]

theorem Reached.publishBundle {s : Router MemoryStore ρ} (h : r.Reached s) :
    r.Reached s.publishBundle := by
  obtain ⟨⟨hl, hc, hi, hr⟩, hcontexts, hbuffer, hstore⟩ := h
  unfold Router.publishBundle
  split
  · split
    · exact ⟨⟨hl, hc, hi, hr⟩, hcontexts, hbuffer, hstore⟩
    · exact ⟨⟨hl, hc, hi, hr⟩, hcontexts, hbuffer, hstore⟩
  · exact ⟨⟨hl, hc, hi, hr⟩, hcontexts, hbuffer, hstore⟩

end Router

namespace Audited

variable {ρ κ : Type}

theorem tag_submit (context : UInt64) (record : Record) (r : Router MemoryStore ρ) :
    (r.submit context record).2.outbox.store.tag = r.outbox.store.tag := by
  unfold Router.submit Outbox.submit Outbox.deliver
  cases hw : r.outbox.waits with
  | true => rfl
  | false =>
    rcases happ : ContextStore.append 0 ⟨context, record.type, record.payload.serialize⟩
      r.outbox.store with ⟨e | ack, store⟩
    · have htag : store.tag = r.outbox.store.tag := MemoryStore.tag_of_append happ
      cases he : e.isProtocol with
      | true =>
        simp only [he, Bool.false_eq_true, ↓reduceIte]
        exact htag
      | false =>
        simp only [he, Bool.false_eq_true, ↓reduceIte]
        exact htag
    · exact MemoryStore.tag_of_append happ

/-- Both records that open a session's contexts are submitted, whatever becomes of them. -/
theorem submitted_openContexts (contexts : SessionContexts) (time : Int64)
    (a : Audited MemoryStore ρ) :
    (a.openContexts contexts time).ledger.submitted =
      a.ledger.submitted ++ a.router.openings contexts time := by
  let adopted := a.become { a.router with contexts := some contexts }
  let opened := adopted.openContext contexts contexts.turns "Turns" time
  have hsteps : Steps adopted opened := steps_openContext _ _ _ _ adopted
  have htag : opened.router.outbox.store.tag = a.router.outbox.store.tag :=
    tag_submit _ _ adopted.router
  have hopening : opened.router.opening contexts "Events" time =
      a.router.opening contexts "Events" time := by
    have hclient : ContextStore.clientTag opened.router.outbox.store =
        ContextStore.clientTag a.router.outbox.store := htag
    simp only [Router.opening, hsteps.alike.config, hsteps.alike.lineage, hsteps.alike.identity,
      hclient]
    rfl
  have hfirst : opened.ledger.submitted = a.ledger.submitted ++ _ := submitted_submit _ _ adopted
  have hsecond : (a.openContexts contexts time).ledger.submitted = opened.ledger.submitted ++ _ :=
    submitted_submit _ _ opened
  rw [hsecond, hfirst, hopening, List.append_assoc]
  rfl

variable [RegistryPublisher ρ] {a : Audited MemoryStore ρ}

/-- The set-up of a session that can connect and create contexts opens the newest two. -/
theorem setUp_opens (time : Int64) (hnone : a.router.contexts = none)
    (hresolver : a.router.resolver = .createNew)
    (hconnect : a.router.outbox.store.failsConnect = false)
    (hcreate : a.router.outbox.store.failsCreate = false) :
    ∃ r connects, a.setUp time =
        (a.become r).openContexts (.newest a.router.outbox.store.contexts) time ∧
      a.router.Alike r ∧ r.outbox.buffer = a.router.outbox.buffer ∧
      r.outbox.store = { a.router.outbox.store with
        connects, connected := true, contexts := a.router.outbox.store.contexts + 2 } := by
  obtain ⟨hok, hreached⟩ := Router.reached_connectFirst hconnect
  obtain ⟨⟨hl, hc, hi, hr⟩, _, hbuffer, connects, hstore⟩ := hreached.publishBundle
  let published := a.router.connectFirst.2.publishBundle
  obtain ⟨journal, hnew⟩ := MemoryStore.createNew_eq (s := published.outbox.store)
    published.lineage (by rw [hstore]) (by rw [hstore]; exact hcreate)
  have hresolve : published.resolve = (.ok (.newest a.router.outbox.store.contexts),
      (published.withStore { published.outbox.store with
        contexts := published.outbox.store.contexts + 2 }).report journal) := by
    unfold Router.resolve
    rw [hr.trans hresolver, hnew]
    simp only [published, hstore]
  refine ⟨(published.withStore { published.outbox.store with
    contexts := published.outbox.store.contexts + 2 }).report journal, connects, ?_,
    ⟨hl, hc, hi, hr⟩, hbuffer, ?_⟩
  · have hfirst : a.router.connectFirst = (.ok (), a.router.connectFirst.2) := by rw [← hok]
    unfold setUp Router.setUp
    rw [hfirst]
    simp only [hnone, Option.isSome_none, Bool.false_eq_true, ↓reduceIte]
    change Audited.mk _ _ = _
    rw [hresolve]
    rfl
  · simp only [Router.report, Outbox.report, Router.withStore, published, hstore]

/-- The first call over a new store opens the contexts of the session. -/
theorem prepare_fresh (time : Int64) (hnone : a.router.contexts = none)
    (hresolver : a.router.resolver = .createNew)
    (hconnect : a.router.outbox.store.failsConnect = false)
    (hcreate : a.router.outbox.store.failsCreate = false) :
    (a.prepare time).router.contexts = some (.newest a.router.outbox.store.contexts) ∧
      (a.prepare time).ledger.submitted = a.ledger.submitted ++
        a.router.openings (.newest a.router.outbox.store.contexts) time := by
  obtain ⟨r, connects, hsetUp, halike, _, hstore⟩ :=
    setUp_opens time hnone hresolver hconnect hcreate
  have hledger : (a.prepare time).ledger = (a.setUp time).ledger := by
    simp only [prepare, hnone, Option.isNone_none, ↓reduceIte]
  have hrouter : (a.prepare time).router = (a.setUp time).router := by
    simp only [prepare, Router.prepare, hnone, Option.isNone_none, ↓reduceIte]
    rfl
  have hopenings : r.openings (.newest a.router.outbox.store.contexts) time =
      a.router.openings (.newest a.router.outbox.store.contexts) time := by
    simp only [Router.openings, Router.opening, halike.config, halike.lineage, halike.identity,
      hstore]
    rfl
  rw [hledger, hrouter, hsetUp, submitted_openContexts, ← hopenings]
  exact ⟨rfl, rfl⟩

/-- What a new session submits depends on its calls alone, whatever happens between them. -/
theorem submitted_fresh (change : κ → MemoryStore → MemoryStore) (c : Call)
    (calls : List (List κ × Call)) (hnone : a.router.contexts = none)
    (hresolver : a.router.resolver = .createNew)
    (hconnect : a.router.outbox.store.failsConnect = false)
    (hcreate : a.router.outbox.store.failsCreate = false) :
    let contexts := SessionContexts.newest a.router.outbox.store.contexts
    let after := (a.handle c).run change (Action.ofCalls calls)
    after.router.contexts = some contexts ∧
      after.ledger.submitted =
        a.ledger.submitted ++ a.router.asked contexts (c :: calls.map (·.2)) := by
  intro contexts after
  obtain ⟨hcontexts, hopened⟩ := prepare_fresh c.readings.setUp hnone hresolver hconnect hcreate
  have hhandled : (a.handle c).router.contexts = some contexts :=
    (steps_handle_of_prepared c a).contexts hcontexts
  have halike := (steps_handle c a).alike
  have hpipeline : (a.handle c).router.pipeline = _ := Router.pipeline_handleEvent _ _ _ a.router
  refine ⟨contexts_run _ hhandled _, ?_⟩
  rw [submitted_ofCalls _ calls hhandled, submitted_handle_of_prepared c hcontexts, hopened,
    halike.config, halike.lineage, hpipeline]
  simp only [contexts, Router.asked, Pipeline.deliveries, List.append_assoc]

/-- What a new session submits when nothing happens between its calls. -/
theorem submitted_calls (change : κ → MemoryStore → MemoryStore) (c : Call) (calls : List Call)
    (hnone : a.router.contexts = none) (hresolver : a.router.resolver = .createNew)
    (hconnect : a.router.outbox.store.failsConnect = false)
    (hcreate : a.router.outbox.store.failsCreate = false) :
    let contexts := SessionContexts.newest a.router.outbox.store.contexts
    let after := a.run change ((c :: calls).map .event)
    after.router.contexts = some contexts ∧
      after.ledger.submitted = a.ledger.submitted ++ a.router.asked contexts (c :: calls) := by
  have hfresh := submitted_fresh change c (calls.map fun c => (([] : List κ), c)) hnone hresolver
    hconnect hcreate
  rw [Action.ofCalls_unchanged, List.map_map] at hfresh
  simp only [Function.comp_def, List.map_id'] at hfresh
  exact hfresh

/-- Over a sound store every call begins with a connection. -/
theorem connected_prepare (time : Int64) {lost : Nat} (hresolver : a.router.resolver = .createNew)
    (hsound : a.router.outbox.store.Sound)
    (hfresh : a.router.contexts = none → a.router.outbox.buffer.records = [])
    (hlost : a.router.outbox.buffer.overflow = lost) :
    let r := (a.prepare time).router
    r.outbox.store.connected = true ∧ r.outbox.store.Sound ∧ r.outbox.buffer.overflow = lost := by
  obtain ⟨hconnects, happends, hcreates, hlimit⟩ := hsound
  simp only [prepare, Router.prepare]
  cases hcontexts : a.router.contexts with
  | none =>
    obtain ⟨r, connects, hsetUp, halike, hbuffer, hstore⟩ :=
      setUp_opens time hcontexts hresolver hconnects hcreates
    have hrouter : (a.router.setUp time).2 = r.openContexts _ time := congrArg (·.router) hsetUp
    have hr : r.Settled lost :=
      ⟨by rw [hstore], by rw [hstore]; exact ⟨hconnects, happends, hcreates, hlimit⟩,
        by rw [hbuffer, hfresh hcontexts], by rw [hbuffer, hlost]⟩
    have hopened := hr.openContexts (.newest a.router.outbox.store.contexts) time
    rw [← hrouter] at hopened
    exact ⟨hopened.connected, hopened.sound, hopened.overflow⟩
  | some contexts =>
    simp only [Option.isNone_some, Bool.false_eq_true, ↓reduceIte]
    split
    · rename_i hc
      exact ⟨hc, ⟨hconnects, happends, hcreates, hlimit⟩, hlost⟩
    · obtain ⟨_, _, _, hbuffer, connects, hstore⟩ := Router.reached_connect
        (.info "reconnected to CXDB" [("pending", toString a.router.outbox.buffer.size)]) hconnects
      simp only [Router.reconnect, hstore, hbuffer]
      exact ⟨trivial, ⟨hconnects, happends, hcreates, hlimit⟩, hlost⟩

/-- A call over a sound store leaves nothing waiting. -/
theorem settled_handle (c : Call) {lost : Nat} (hresolver : a.router.resolver = .createNew)
    (hsound : a.router.outbox.store.Sound)
    (hfresh : a.router.contexts = none → a.router.outbox.buffer.records = [])
    (hlost : a.router.outbox.buffer.overflow = lost) : (a.handle c).router.Settled lost := by
  obtain ⟨hc, hs, ho⟩ := connected_prepare c.readings.setUp hresolver hsound hfresh hlost
  have hready : (a.router.prepare c.readings.setUp).2.catchUp.Settled lost :=
    Router.settled_catchUp hc hs ho
  change (a.router.handleEvent _ _ _).Settled lost
  unfold Router.handleEvent
  rcases hstep : (a.router.prepare c.readings.setUp).2.catchUp.pipeline.step c.readings.steady
    c.event c.data with ⟨decision, pipeline⟩
  have hthink : Router.Settled lost { (a.router.prepare c.readings.setUp).2.catchUp with
    pipeline } := ⟨hready.connected, hready.sound, hready.empty, hready.overflow⟩
  simp only [hstep]
  cases decision with
  | dropped => exact hthink.report _
  | recorded finished => exact ((hthink.recordEvent _ _ _).recordTurn _ _).report _

/-- Calls over a sound store leave nothing waiting. -/
theorem settled_calls (change : κ → MemoryStore → MemoryStore) (calls : List Call) {lost : Nat}
    (hresolver : a.router.resolver = .createNew) (hsound : a.router.outbox.store.Sound)
    (hempty : a.router.outbox.buffer.records = [])
    (hlost : a.router.outbox.buffer.overflow = lost) :
    let b := a.run change (calls.map .event)
    b.router.outbox.buffer.records = [] ∧ b.router.outbox.buffer.overflow = lost := by
  induction calls generalizing a with
  | nil => exact ⟨hempty, hlost⟩
  | cons c rest ih =>
    have hsettled := settled_handle c hresolver hsound (fun _ => hempty) hlost
    have hsteps : Steps a (a.handle c) := steps_handle c a
    exact ih (hsteps.alike.resolver.trans hresolver) hsettled.sound hsettled.empty
      hsettled.overflow

end Audited

end SessionRecorder
