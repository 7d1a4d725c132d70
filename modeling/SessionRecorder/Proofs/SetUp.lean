import SessionRecorder.Proofs.EventReadBack
import SessionRecorder.Proofs.StoreUse
import SessionRecorder.Proofs.Submissions
import SessionRecorder.Store.Memory

/-!
A session gets its contexts as a whole, and once. An attempt that fails leaves it as it was: without
contexts, with what waited and with nothing appended. The one that succeeds submits the two records
that open the contexts, and no other record was submitted before them. From then on the contexts
stay, and neither further ones are created nor others opened, and nothing is published. Main
statement: `set_up_once`.
-/

namespace SessionRecorder

/-! ## The records that open contexts -/

/-- Whether a record tells about its context, as the first one in each context does. -/
def Record.isMetadata (r : Record) : Bool := (r.payload.get? Item.metadataTag).isSome

/-- A record on its way that does not tell about its context. -/
def Delivery.Plain (d : Delivery) : Prop :=
  ∃ context record, d = Record.into context record ∧ record.isMetadata = false

theorem Item.get?_complete {kind session label : String} {time : Int64}
    {parts : List (UInt64 × Option Msgpack)}
    (h : ([kindTag, statusTag, timestampTag, idTag] ++ parts.map (·.1)).Pairwise
      fun a b => compare a b = .lt) (tag : UInt64) (htag : tag ∉ [kindTag, statusTag, timestampTag,
      idTag]) : (complete kind session label time parts).get? tag = (parts.lookup tag).join := by
  rw [complete, Payload.get?_ofFields (by simpa using h)]
  simp only [List.mem_cons, List.not_mem_nil, or_false, not_or] at htag
  obtain ⟨hkind, hstatus, htime, hid⟩ := htag
  simp only [List.cons_append, List.nil_append, List.lookup_cons, beq_false_of_ne hkind,
    beq_false_of_ne hstatus, beq_false_of_ne htime, beq_false_of_ne hid]

theorem Router.isMetadata_opening {σ ρ : Type} [ContextStore σ] (contexts : SessionContexts)
    (label : String) (time : Int64) (r : Router σ ρ) :
    (r.opening contexts label time).isMetadata = true := by
  unfold Record.isMetadata opening ContextMetadata.item
  simp only
  rw [Item.get?_complete (by simp only [List.map_cons, List.map_nil]; decide) _ (by decide)]
  rfl

theorem Record.isMetadata_ofEvent (shape : RecordShape) (event : String) (data : Json)
    (l : Lineage) (time : Int64) : (ofEvent shape event data l time).isMetadata = false := by
  cases shape with
  | envelope =>
    have hnone : (Envelope.ofEvent event data l time).get? Item.metadataTag = none :=
      Payload.get?_ofFields_eq_none (by simp only [List.map_cons, List.map_nil]; decide)
        (by simp only [List.map_cons, List.map_nil]; decide)
    rw [isMetadata, ofEvent, hnone, Option.isSome_none]
  | conversationItem =>
    rw [isMetadata, ofEvent, Item.ofEvent_eq,
      Item.get?_complete (by simp only [List.map_cons, List.map_nil]; decide) _ (by decide)]
    rfl

theorem Turn.isMetadata_items {session : String} {time : Int64} {turn : Turn} {item : Payload}
    (h : item ∈ turn.items session time) :
    (⟨.conversationItem, item⟩ : Record).isMetadata = false := by
  unfold items at h
  simp only [List.mem_append, Option.mem_toList, Option.map_eq_some_iff] at h
  rw [Record.isMetadata]
  rcases h with ⟨prompt, _, rfl⟩ | hanswer
  · rw [Item.get?_complete (by simp only [List.map_cons, List.map_nil]; decide) _ (by decide)]
    rfl
  · split at hanswer
    · obtain rfl := Option.some.inj hanswer
      rw [Item.get?_complete (by simp only [List.map_cons, List.map_nil]; decide) _ (by decide)]
      rfl
    · cases hanswer

theorem Turn.plain_items {context : UInt64} {session : String} {time : Int64}
    {finished : Option Turn} {d : Delivery}
    (h : d ∈ (finished.toList.flatMap (·.items session time)).map fun item =>
      Record.into context ⟨.conversationItem, item⟩) : d.Plain := by
  obtain ⟨item, hmem, rfl⟩ := List.mem_map.1 h
  obtain ⟨turn, _, hturn⟩ := List.mem_flatMap.1 hmem
  exact ⟨_, _, rfl, isMetadata_items hturn⟩

theorem Decision.plain_deliveries {contexts : SessionContexts} {shape : RecordShape} {l : Lineage}
    {c : Call} {decision : Decision} {d : Delivery}
    (h : d ∈ decision.deliveries contexts shape l c) : d.Plain := by
  cases decision with
  | dropped => cases h
  | recorded finished =>
    rcases List.mem_cons.1 h with rfl | hitem
    · exact ⟨_, _, rfl, Record.isMetadata_ofEvent ..⟩
    · exact Turn.plain_items hitem

namespace Router

variable {σ ρ : Type} [ContextStore σ]

/-- The submitted records begin with those that open these contexts, the context of the turns first,
and no other record opens one. Each of the two is made over some state of the store. -/
def Opens (contexts : SessionContexts) (submitted rest : List Delivery) (r : Router σ ρ) : Prop :=
  ∃ time store store',
    let turns := (r.withStore store).opening contexts "Turns" time
    let events := (r.withStore store').opening contexts "Events" time
    turns.isMetadata = true ∧ events.isMetadata = true ∧
      submitted = turns.into contexts.turns :: events.into contexts.events :: rest ∧
      ∀ d ∈ rest, d.Plain

theorem Opens.append {contexts : SessionContexts} {submitted rest more : List Delivery}
    {r : Router σ ρ} (h : r.Opens contexts submitted rest) (hmore : ∀ d ∈ more, d.Plain) :
    r.Opens contexts (submitted ++ more) (rest ++ more) := by
  obtain ⟨time, store, store', hturns, hevents, rfl, hrest⟩ := h
  refine ⟨time, store, store', hturns, hevents, rfl, ?_⟩
  intro d hd
  exact (List.mem_append.1 hd).elim (hrest d) (hmore d)

/-- Routers that differ in their work alone open contexts alike, but for the store. -/
theorem Alike.opening {r s : Router σ ρ} (h : r.Alike s) (contexts : SessionContexts)
    (label : String) (time : Int64) :
    s.opening contexts label time =
      (r.withStore s.outbox.store).opening contexts label time := by
  unfold Router.opening withStore
  simp only [h.lineage, h.config, h.identity]

end Router

/-! ## What is published -/

/-- A publisher with its answers, oldest first. -/
structure NotedPublisher (ρ : Type) where
  publisher : ρ
  answers : List (Except RegistryError Unit) := []

instance {ρ : Type} [RegistryPublisher ρ] : RegistryPublisher (NotedPublisher ρ) where
  publish p :=
    let (answer, journal, publisher) := RegistryPublisher.publish p.publisher
    (answer, journal, ⟨publisher, p.answers ++ [answer]⟩)

namespace Router

variable {σ ρ κ : Type} {r s : Router σ (NotedPublisher ρ)}

/-- What the publisher has answered so far. -/
def answers (r : Router σ (NotedPublisher ρ)) : List (Except RegistryError Unit) :=
  (r.publisher.map (·.answers)).getD []

/-- The publisher is called only where that is wanted, and until it has succeeded. -/
structure PublishesOnce (r : Router σ (NotedPublisher ρ)) : Prop where
  unwanted : r.config.publishRegistry = false → r.answers = []
  once : ∀ answer ∈ r.answers.dropLast, answer.isOk = false
  published : r.published = false → ∀ answer ∈ r.answers, answer.isOk = false

theorem PublishesOnce.of_unchanged (h : r.PublishesOnce) (hconfig : s.config = r.config)
    (hpublisher : s.publisher = r.publisher) (hpublished : s.published = r.published) :
    s.PublishesOnce := by
  have hanswers : s.answers = r.answers := by rw [answers, answers, hpublisher]
  refine ⟨?_, ?_, ?_⟩
  · rw [hconfig, hanswers]
    exact h.unwanted
  · rw [hanswers]
    exact h.once
  · rw [hpublished, hanswers]
    exact h.published

theorem PublishesOnce.calls [ContextStore σ] {kind : StoreCall → Prop} (h : r.PublishesOnce)
    (hcalls : r.Calls kind s) : s.PublishesOnce :=
  h.of_unchanged hcalls.alike.config hcalls.publisher hcalls.published

theorem PublishesOnce.publishBundle [RegistryPublisher ρ] (h : r.PublishesOnce) :
    r.publishBundle.PublishesOnce := by
  unfold Router.publishBundle
  split
  · rename_i p hp
    split
    · rename_i hwanted
      obtain ⟨hwanted, hnot⟩ := Bool.and_eq_true_iff.1 hwanted
      have hfailed := h.published (by simpa using hnot)
      rcases hanswer : RegistryPublisher.publish p.publisher with ⟨answer, journal, next⟩
      have hpublish : RegistryPublisher.publish p =
          (answer, journal, ⟨next, p.answers ++ [answer]⟩) := by
        simp only [RegistryPublisher.publish, hanswer]
      have hanswers : r.answers = p.answers := by
        rw [answers, hp, Option.map_some, Option.getD_some]
      rw [hanswers] at hfailed
      simp only [hpublish]
      refine ⟨?_, ?_, ?_⟩
      · intro hunwanted
        have hunwanted : r.config.publishRegistry = false := hunwanted
        rw [hwanted] at hunwanted
        cases hunwanted
      · intro a ha
        have ha : a ∈ (p.answers ++ [answer]).dropLast := ha
        rw [List.dropLast_concat] at ha
        exact hfailed a ha
      · intro hlast a ha
        have ha : a ∈ p.answers ++ [answer] := ha
        rcases List.mem_append.1 ha with hearlier | hnew
        · exact hfailed a hearlier
        · obtain rfl := List.mem_singleton.1 hnew
          exact hlast
    · exact h
  · exact h

end Router

/-! ## How an attempt ends -/

namespace Audited

variable {σ ρ κ : Type} [ContextStore σ]

section

variable {a b : Audited σ ρ}

theorem submitted_openContext (contexts : SessionContexts) (context : UInt64) (label : String)
    (time : Int64) (a : Audited σ ρ) :
    (a.openContext contexts context label time).ledger.submitted =
      a.ledger.submitted ++ [(a.router.opening contexts label time).into context] :=
  submitted_submit context _ a

/-- To open contexts submits two records. -/
theorem opens_openContexts (contexts : SessionContexts) (time : Int64) {r : Router σ ρ}
    (h : r.Alike a.router) (hnothing : a.ledger.submitted = []) :
    r.Opens contexts (a.openContexts contexts time).ledger.submitted [] := by
  let given := a.become { a.router with contexts := some contexts }
  let begun := given.openContext contexts contexts.turns "Turns" time
  have hgiven : r.Alike given.router := ⟨h.lineage, h.config, h.identity, h.resolver⟩
  have hbegun : r.Alike begun.router := hgiven.trans (steps_openContext _ _ _ _ given).alike
  refine ⟨time, given.router.outbox.store, begun.router.outbox.store,
    Router.isMetadata_opening .., Router.isMetadata_opening .., ?_, by simp⟩
  rw [← hgiven.opening, ← hbegun.opening]
  change (begun.openContext contexts contexts.events "Events" time).ledger.submitted = _
  rw [submitted_openContext, submitted_openContext]
  change a.ledger.submitted ++ _ ++ _ = _
  rw [hnothing]
  rfl

theorem submitted_cleanUp {contexts : SessionContexts} (time : Int64)
    (h : a.router.contexts = some contexts) :
    (a.cleanUp time).ledger.submitted = a.ledger.submitted ++
      (a.router.pipeline.turns.flush.1.toList.flatMap
        (·.items a.router.lineage.sessionId time)).map fun item =>
          Record.into contexts.turns ⟨.conversationItem, item⟩ := by
  let flushed := a.become { a.router with
    pipeline := { a.router.pipeline with turns := a.router.pipeline.turns.flush.2 } }
  have hsent (b : Audited σ ρ) : b.sendPending.ledger.submitted = b.ledger.submitted := by
    unfold sendPending
    split <;> rfl
  have hflushed : flushed.router.contexts = some contexts := h
  change (flushed.recordTurn time a.router.pipeline.turns.flush.1).sendPending.ledger.submitted = _
  rw [hsent, submitted_recordTurn time _ hflushed]
  rfl

variable [RegistryPublisher ρ]

/-- An attempt that fails changes neither contexts nor what waits, and appends nothing. -/
theorem Attempt.failed {time : Int64} {e : RouterError} (h : Attempt time a (.error e) b)
    (hresolver : a.router.resolver.Creates) :
    b.router.contexts = a.router.contexts ∧ b.ledger = a.ledger ∧
      b.router.outbox.buffer = a.router.outbox.buffer ∧
      Reaches (·.isAppend = false) a.router.outbox.store b.router.outbox.store := by
  have hfirst : a.router.Calls (·.isAppend = false) a.router.connectFirst.2 :=
    Router.calls_connectFirst (by rfl) a.router
  have hbuffer : a.router.connectFirst.2.outbox.buffer = a.router.outbox.buffer := by
    unfold Router.connectFirst
    split <;> rfl
  have halike := (steps_connectFirst a).alike
  cases h with
  | unconnected hconnect =>
    rw [hconnect] at hfirst hbuffer
    exact ⟨hfirst.contexts, rfl, hbuffer, hfirst.store⟩
  | @unresolved _ r s hconnect hresolve =>
    rw [hconnect] at hfirst hbuffer halike
    obtain ⟨publisher, published, journal, hpublish⟩ := r.publishBundle_eq
    have hcreates : Reaches (·.isAppend = false) r.outbox.store
        (r.resolver r.lineage r.outbox.store).2.2 :=
      (halike.resolver ▸ hresolver _ _).mono fun _ => StoreCall.isAppend_of_isCreation
    have hs : s = r.publishBundle.resolve.2 := by rw [hresolve]
    rw [hpublish] at hs
    subst hs
    exact ⟨hfirst.contexts, rfl, hbuffer, hfirst.store.trans hcreates⟩

/-- An attempt that succeeds gives the session its contexts. -/
theorem Attempt.succeeded {time : Int64} {start : Router σ ρ} (h : Attempt time a (.ok ()) b)
    (hstart : start.Alike a.router) (hnothing : a.ledger.submitted = []) :
    ∃ contexts, b.router.contexts = some contexts ∧
      start.Opens contexts b.ledger.submitted [] := by
  cases h with
  | @opened contexts r s hconnect hresolve =>
    have hfirst := (steps_connectFirst a).alike
    rw [hconnect] at hfirst
    have hsteps : Steps (a.become r) (a.become r.publishBundle.resolve.2) :=
      (steps_publishBundle (a.become r)).trans (steps_resolve (a.become r.publishBundle))
    rw [hresolve] at hsteps
    have halike : start.Alike (a.become s).router := (hstart.trans hfirst).trans hsteps.alike
    exact ⟨contexts, rfl, opens_openContexts contexts time halike hnothing⟩

end

theorem Attempt.publishesOnce [RegistryPublisher ρ] {a b : Audited σ (NotedPublisher ρ)}
    {time : Int64} {result : Except RouterError Unit} (h : Attempt time a result b)
    (ha : a.router.PublishesOnce) : b.router.PublishesOnce := by
  have hconnected : a.router.Calls (fun _ => True) a.router.connectFirst.2 :=
    Router.calls_connectFirst trivial a.router
  have hfirst : a.router.connectFirst.2.PublishesOnce := ha.calls hconnected
  have hresolved {r : Router σ (NotedPublisher ρ)} (hr : r.PublishesOnce) :
      r.publishBundle.resolve.2.PublishesOnce := hr.publishBundle.of_unchanged rfl rfl rfl
  cases h with
  | unconnected hconnect =>
    rw [hconnect] at hfirst
    exact hfirst
  | unresolved hconnect hresolve =>
    rw [hconnect] at hfirst
    have hr := hresolved hfirst
    rw [hresolve] at hr
    exact hr
  | opened hconnect hresolve =>
    rw [hconnect] at hfirst
    have hr := hresolved hfirst
    rw [hresolve] at hr
    exact hr.of_unchanged rfl rfl rfl

/-! ## The two stages of a session -/

/-- Without contexts nothing was submitted or appended, and what waits is what waited first. -/
structure Unopened (buffer : RetryBuffer) (a : Audited (NotedStore σ) (NotedPublisher ρ)) :
    Prop where
  contexts : a.router.contexts = none
  submitted : a.ledger.submitted = []
  buffer : a.router.outbox.buffer = buffer
  calls : ∀ call ∈ a.router.outbox.store.calls, call.isAppend = false

/-- With contexts the records that open them were submitted before all others. -/
structure Opened (start : Router (NotedStore σ) (NotedPublisher ρ)) (contexts : SessionContexts)
    (a : Audited (NotedStore σ) (NotedPublisher ρ)) : Prop where
  submitted : ∃ rest, start.Opens contexts a.ledger.submitted rest
  contexts : a.router.contexts = some contexts

/-- A session at one of its stages. -/
structure Staged (start : Router (NotedStore σ) (NotedPublisher ρ))
    (a : Audited (NotedStore σ) (NotedPublisher ρ)) : Prop where
  alike : start.Alike a.router
  publishes : a.router.PublishesOnce
  stage : a.Unopened start.outbox.buffer ∨ ∃ contexts, a.Opened start contexts

section

variable {start : Router (NotedStore σ) (NotedPublisher ρ)}
  {a b : Audited (NotedStore σ) (NotedPublisher ρ)} {buffer : RetryBuffer}

/-- More calls that append nothing. -/
theorem Unopened.work (h : a.Unopened buffer) (hcontexts : b.router.contexts = a.router.contexts)
    (hledger : b.ledger.submitted = a.ledger.submitted)
    (hbuffer : b.router.outbox.buffer = a.router.outbox.buffer)
    (hcalls : Reaches (·.isAppend = false) a.router.outbox.store b.router.outbox.store) :
    b.Unopened buffer := by
  obtain ⟨made, hmade, hplain⟩ := NotedStore.calls_of_reaches hcalls
  refine ⟨hcontexts.trans h.contexts, hledger.trans h.submitted, hbuffer.trans h.buffer, ?_⟩
  intro call hcall
  rw [hmade] at hcall
  exact (List.mem_append.1 hcall).elim (h.calls call) (hplain call)

theorem Opened.submit {contexts : SessionContexts} {more : List Delivery}
    (h : a.Opened start contexts) (hsteps : Steps a b)
    (hsubmitted : b.ledger.submitted = a.ledger.submitted ++ more) (hmore : ∀ d ∈ more, d.Plain) :
    b.Opened start contexts := by
  obtain ⟨rest, hopens⟩ := h.submitted
  refine ⟨⟨rest ++ more, ?_⟩, hsteps.contexts h.contexts⟩
  rw [hsubmitted]
  exact hopens.append hmore

theorem ledger_cleanUp_unopened (time : Int64) (hcontexts : a.router.contexts = none)
    (hempty : a.router.outbox.buffer.isEmpty = true) :
    (a.cleanUp time).ledger = a.ledger := by
  let flushed := a.become { a.router with
    pipeline := { a.router.pipeline with turns := a.router.pipeline.turns.flush.2 } }
  have hturn : flushed.recordTurn time a.router.pipeline.turns.flush.1 = flushed :=
    recordTurn_unopened time _ hcontexts
  have hsend : flushed.sendPending = flushed := by
    have hflushed : flushed.router.outbox.buffer.isEmpty = true := hempty
    simp only [sendPending, hflushed, Bool.not_true, Bool.and_false, Bool.false_eq_true, ↓reduceIte]
  change (flushed.recordTurn time a.router.pipeline.turns.flush.1).sendPending.ledger = _
  rw [hturn, hsend]
  rfl

theorem Staged.cleanUp (time : Int64) (h : a.Staged start)
    (hempty : start.outbox.buffer.isEmpty = true) : (a.cleanUp time).Staged start := by
  have hsteps := steps_cleanUp time a
  have hcalls : a.router.Calls (fun _ => True) (a.router.cleanUp time) :=
    Router.calls_cleanUp (fun _ => trivial) trivial time a.router
  refine ⟨h.alike.trans hsteps.alike, h.publishes.calls hcalls, ?_⟩
  rcases h.stage with hunopened | ⟨contexts, hopened⟩
  · -- Nothing is flushed into the contexts that are not there, and nothing waits.
    have hnothing : a.router.outbox.buffer.isEmpty = true := hunopened.buffer ▸ hempty
    have hledger := ledger_cleanUp_unopened time hunopened.contexts hnothing
    obtain ⟨pipeline, left, failed, hcleaned⟩ :=
      Router.cleanUp_unopened time hunopened.contexts hnothing
    have hrouter : (a.cleanUp time).router = _ := hcleaned
    have hclose : Reaches (·.isAppend = false) a.router.outbox.store
        (ContextStore.close a.router.outbox.store) :=
      @Reaches.single _ _ (·.isAppend = false) .close rfl _
    refine .inl (hunopened.work ?_ (by rw [hledger]) ?_ ?_) <;> rw [hrouter]
    · rfl
    · rfl
    · exact hclose
  · refine .inr ⟨contexts, hopened.submit hsteps (submitted_cleanUp time hopened.contexts) ?_⟩
    intro d hd
    exact Turn.plain_items hd

variable [RegistryPublisher ρ]

theorem Staged.setUp (time : Int64) (h : a.Staged start) (hresolver : start.resolver.Creates) :
    (a.setUp time).Staged start := by
  have halike := h.alike.trans (steps_setUp time a).alike
  rcases h.stage with hunopened | ⟨contexts, hopened⟩
  · have hattempt := attempt time hunopened.contexts
    have hpublishes := hattempt.publishesOnce h.publishes
    refine ⟨halike, hpublishes, ?_⟩
    rcases hresult : (a.router.setUp time).1 with e | ⟨⟩ <;> rw [hresult] at hattempt
    · obtain ⟨hcontexts, hledger, hbuffer, hcalls⟩ :=
        hattempt.failed (h.alike.resolver ▸ hresolver)
      exact .inl (hunopened.work hcontexts (by rw [hledger]) hbuffer hcalls)
    · obtain ⟨contexts, hcontexts, hopens⟩ := hattempt.succeeded h.alike hunopened.submitted
      exact .inr ⟨contexts, ⟨[], hopens⟩, hcontexts⟩
  · have hnothing : a.setUp time = a := by
      simp only [Audited.setUp, Router.setUp, hopened.contexts, Option.isSome_some, ↓reduceIte]
    rw [hnothing]
    exact h

theorem prepare_unopened (time : Int64) (h : a.router.contexts = none) :
    a.prepare time = a.setUp time := by
  simp only [prepare, Router.prepare, h, Option.isNone_none, ↓reduceIte]
  rfl

theorem Staged.prepare (time : Int64) (h : a.Staged start) (hresolver : start.resolver.Creates) :
    (a.prepare time).Staged start := by
  rcases h.stage with hunopened | ⟨contexts, hopened⟩
  · rw [prepare_unopened time hunopened.contexts]
    exact h.setUp time hresolver
  · have hsteps := steps_prepare time a
    have hnothing := submitted_prepare time hopened.contexts
    have hcalls : a.router.Calls (fun _ => True) (a.prepare time).router := by
      unfold Audited.prepare Router.prepare
      simp only [hopened.contexts, Option.isNone_some, Bool.false_eq_true, ↓reduceIte]
      split
      · exact .refl _
      · exact Router.calls_connect trivial _ _
    refine ⟨h.alike.trans hsteps.alike, h.publishes.calls hcalls, .inr ⟨contexts, ?_⟩⟩
    exact hopened.submit hsteps (by rw [hnothing, List.append_nil]) (by simp)

/-- A call that finds no contexts makes no calls behind its attempt to set them up. -/
theorem handle_unopened_outbox (c : Call)
    (hcontexts : (a.prepare c.readings.setUp).router.contexts = none)
    (hempty : (a.prepare c.readings.setUp).router.outbox.buffer.isEmpty = true) :
    let r := (a.handle c).router
    let prepared := (a.prepare c.readings.setUp).router
    r.outbox.store = prepared.outbox.store ∧ r.outbox.buffer = prepared.outbox.buffer := by
  obtain ⟨decision, pipeline, journal, -, hhandle⟩ := handle_follows c a
  have hcaught : (a.prepare c.readings.setUp).router.catchUp =
      (a.prepare c.readings.setUp).router.report [] := by
    rw [Router.catchUp, Router.sendPending_of_empty hempty]
    rfl
  have hready : (a.prepare c.readings.setUp).catchUp.router.contexts = none :=
    (contexts_catchUp _).trans hcontexts
  rw [hhandle, follow_unopened c decision (by exact hready)]
  simp only [become, catchUp, hcaught]
  exact ⟨rfl, rfl⟩

theorem Staged.handle (c : Call) (h : a.Staged start) (hresolver : start.resolver.Creates)
    (hempty : start.outbox.buffer.isEmpty = true) : (a.handle c).Staged start := by
  have hsteps := steps_handle_of_prepared c a
  have hprepared := h.prepare c.readings.setUp hresolver
  have hcalls : (a.prepare c.readings.setUp).router.Calls (fun _ => True) (a.handle c).router :=
    Router.calls_handle_of_prepared (fun _ => trivial) c a.router
  refine ⟨hprepared.alike.trans hsteps.alike, hprepared.publishes.calls hcalls, ?_⟩
  rcases hprepared.stage with hunopened | ⟨contexts, hopened⟩
  · obtain ⟨hcontexts, hsubmitted⟩ := handle_unopened c hunopened.contexts
    obtain ⟨hstore, hbuffer⟩ := handle_unopened_outbox c hunopened.contexts
      (hunopened.buffer ▸ hempty)
    refine .inl (hunopened.work (hcontexts.trans hunopened.contexts.symm) hsubmitted hbuffer ?_)
    rw [hstore]
    exact .refl _
  · refine .inr ⟨contexts, hopened.submit hsteps
      (submitted_handle_of_prepared c hopened.contexts) ?_⟩
    intro d hd
    exact Decision.plain_deliveries hd

theorem Staged.run (change : κ → σ → σ) (h : a.Staged start) (hresolver : start.resolver.Creates)
    (hempty : start.outbox.buffer.isEmpty = true) (actions : List (Action κ)) :
    (a.run (NotedStore.change change) actions).Staged start := by
  induction actions generalizing a with
  | nil => exact h
  | cons action rest ih =>
    refine ih ?_
    cases action with
    | setUp time => exact h.setUp time hresolver
    | event c => exact h.handle c hresolver hempty
    | cleanUp time => exact h.cleanUp time hempty
    | outside k =>
      obtain ⟨halike, hpublishes, hstage⟩ := h
      refine ⟨⟨halike.lineage, halike.config, halike.identity, halike.resolver⟩,
        hpublishes.of_unchanged rfl rfl rfl, ?_⟩
      rcases hstage with hunopened | ⟨contexts, hopened⟩
      · exact .inl ⟨hunopened.contexts, hunopened.submitted, hunopened.buffer, hunopened.calls⟩
      · exact .inr ⟨contexts, hopened.submitted, hopened.contexts⟩

end

end Audited

/-! ## What stays -/

namespace Router

variable {σ ρ κ : Type} {r s t : Router (NotedStore σ) (NotedPublisher ρ)}

/-- Between two states of a session its contexts have stayed, no further ones have been created, and
the publisher has not been called. -/
structure Stays (r s : Router (NotedStore σ) (NotedPublisher ρ)) : Prop where
  contexts : s.contexts = r.contexts
  created : ∃ made, s.outbox.store.calls = r.outbox.store.calls ++ made ∧
    ∀ call ∈ made, call.isCreation = false
  answers : s.answers = r.answers

theorem Stays.trans (hrs : r.Stays s) (hst : s.Stays t) : r.Stays t := by
  obtain ⟨first, hfirst, hnone⟩ := hrs.created
  obtain ⟨second, hsecond, hnone'⟩ := hst.created
  refine ⟨hst.contexts.trans hrs.contexts, ⟨first ++ second, ?_, ?_⟩,
    hst.answers.trans hrs.answers⟩
  · rw [hsecond, hfirst, List.append_assoc]
  · intro call hcall
    exact (List.mem_append.1 hcall).elim (hnone call) (hnone' call)

/-- A session with contexts keeps them, whatever happens to it. -/
theorem stays_run [ContextStore σ] [RegistryPublisher ρ] (change : κ → σ → σ)
    (h : r.contexts.isSome) (actions : List (Action κ)) :
    r.Stays (r.run (NotedStore.change change) actions) := by
  induction actions generalizing r with
  | nil => exact ⟨rfl, ⟨[], (List.append_nil _).symm, by simp⟩, rfl⟩
  | cons action rest ih =>
    have hfirst : r.Stays (r.act (NotedStore.change change) action) := by
      rcases calls_act (NotedStore.change change) action h with hcalls | ⟨k, hchanged⟩
      · refine ⟨hcalls.contexts, NotedStore.calls_of_reaches hcalls.store, ?_⟩
        rw [answers, answers, hcalls.publisher]
      · rw [hchanged]
        exact ⟨rfl, ⟨[], (List.append_nil _).symm, by simp⟩, rfl⟩
    exact hfirst.trans (ih (by rw [hfirst.contexts]; exact h))

end Router

/-- How a session is set up, told at any of its states. A call that finds no contexts begins with an
attempt to set them up. -/
structure Audited.SetUpOnce {σ ρ κ : Type} [ContextStore σ] [RegistryPublisher ρ]
    (change : κ → σ → σ) (start : Router (NotedStore σ) (NotedPublisher ρ))
    (a : Audited (NotedStore σ) (NotedPublisher ρ)) : Prop where
  /-- An attempt that fails leaves no contexts, and all that waits. It appends nothing. -/
  failed : ∀ time e, (a.router.setUp time).1 = .error e →
    let r := (a.router.setUp time).2
    r.contexts = none ∧ r.outbox.buffer = a.router.outbox.buffer ∧
      ∃ made, r.outbox.store.calls = a.router.outbox.store.calls ++ made ∧
        ∀ call ∈ made, call.isAppend = false
  /-- An attempt that succeeds gives contexts and submits the two records that open them, whatever
  becomes of these. -/
  succeeded : ∀ time, a.router.contexts = none → (a.router.setUp time).1 = .ok () →
    ∃ contexts, (a.setUp time).router.contexts = some contexts ∧
      start.Opens contexts (a.setUp time).ledger.submitted []
  /-- Before that nothing was submitted, waits or was appended. -/
  unopened : a.router.contexts = none →
    a.ledger.submitted = [] ∧ a.router.outbox.buffer = start.outbox.buffer ∧
      ∀ call ∈ a.router.outbox.store.calls, call.isAppend = false
  /-- After it no record opens a context again, and the contexts stay. -/
  opened : ∀ contexts, a.router.contexts = some contexts →
    (∃ rest, start.Opens contexts a.ledger.submitted rest) ∧
      ∀ later : List (Action κ), a.router.Stays (a.router.run (NotedStore.change change) later)
  unwanted : start.config.publishRegistry = false → a.router.answers = []
  /-- Every answer of the publisher but the last is an error. -/
  once : ∀ answer ∈ a.router.answers.dropLast, answer.isOk = false

/-- Whatever a store and a publisher do, and whatever happens to the session, it is set up as a
whole, and once. -/
theorem set_up_once {σ ρ κ : Type} [ContextStore σ] [RegistryPublisher ρ] (change : κ → σ → σ)
    (store : σ) (l : Lineage) (config : RouterConfig) (identity : Identity) (known : List String)
    (resolver : Resolver (NotedStore σ)) (hresolver : resolver.Creates) (publisher : Option ρ)
    (actions : List (Action κ)) :
    let start : Router (NotedStore σ) (NotedPublisher ρ) :=
      .create ⟨store, []⟩ l config identity known resolver (publisher.map (⟨·, []⟩))
    (Audited.run (NotedStore.change change) ⟨start, {}⟩ actions).SetUpOnce change start := by
  intro start
  have hanswers : start.answers = [] := by cases publisher <;> rfl
  have hbegun : Audited.Staged start ⟨start, {}⟩ := by
    refine ⟨⟨rfl, rfl, rfl, rfl⟩, ?_, .inl ⟨rfl, rfl, rfl, by simp [start, Router.create]⟩⟩
    exact ⟨fun _ => hanswers, by simp [hanswers], by simp [hanswers]⟩
  have h := hbegun.run change hresolver rfl actions
  generalize Audited.run (NotedStore.change change) ⟨start, {}⟩ actions = a at h
  have hattempt (time : Int64) (hnone : a.router.contexts = none) :=
    Audited.attempt time hnone
  refine ⟨?_, ?_, ?_, ?_, ?_, h.publishes.once⟩
  · intro time e hfailed
    cases hcontexts : a.router.contexts with
    | some contexts => simp [Router.setUp, hcontexts] at hfailed
    | none =>
      have hended := hattempt time hcontexts
      rw [hfailed] at hended
      obtain ⟨hnone, -, hbuffer, hcalls⟩ := hended.failed (h.alike.resolver ▸ hresolver)
      exact ⟨hnone.trans hcontexts, hbuffer, NotedStore.calls_of_reaches hcalls⟩
  · intro time hcontexts hok
    have hended := hattempt time hcontexts
    rw [hok] at hended
    rcases h.stage with hunopened | ⟨contexts, hopened⟩
    · exact hended.succeeded h.alike hunopened.submitted
    · rw [hopened.contexts] at hcontexts
      cases hcontexts
  · intro hcontexts
    rcases h.stage with hunopened | ⟨contexts, hopened⟩
    · exact ⟨hunopened.submitted, hunopened.buffer, hunopened.calls⟩
    · rw [hopened.contexts] at hcontexts
      cases hcontexts
  · intro contexts hcontexts
    refine ⟨?_, Router.stays_run change (by rw [hcontexts]; rfl)⟩
    rcases h.stage with hunopened | ⟨found, hopened⟩
    · rw [hunopened.contexts] at hcontexts
      cases hcontexts
    · rw [hopened.contexts] at hcontexts
      cases hcontexts
      exact hopened.submitted
  · intro hunwanted
    exact h.publishes.unwanted (h.alike.config ▸ hunwanted)

namespace Sample

/-- The store cannot be connected at first, and then gives no contexts. -/
def hindered : List (Action MemoryStore.Switch) := [
  .outside (.failConnect true), .event prompt, .outside (.failConnect false),
  .outside (.failCreate true), .event tool, .outside (.failCreate false), .setUp 5, .event finish]

end Sample

/-- The third attempt gives the session its contexts. The bundle was published by the second. -/
theorem set_up_after_failures :
    let change (k : MemoryStore.Switch) (store : MemoryStore) := store.switch k
    let start : Router (NotedStore MemoryStore) (NotedPublisher CountingPublisher) :=
      .create ⟨{ tag := "recorder" }, []⟩ Sample.lineage Sample.config Sample.identity [] .createNew
        (Sample.publisher.map (⟨·, []⟩))
    let a := Audited.run (NotedStore.change change) ⟨start, {}⟩ Sample.hindered
    Resolver.Creates (.createNew : Resolver (NotedStore MemoryStore)) ∧
      a.router.contexts = some ⟨1, 2, none, none⟩ ∧ a.router.answers.length = 1 ∧
      a.ledger.submitted.length = 5 ∧ a.SetUpOnce change start :=
  ⟨Resolver.createNew_creates, by decide +kernel, by decide +kernel, by decide +kernel,
    set_up_once _ _ Sample.lineage Sample.config Sample.identity [] _ Resolver.createNew_creates
      Sample.publisher Sample.hindered⟩

end SessionRecorder
