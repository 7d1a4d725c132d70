import SessionRecorder.Proofs.Overlong

/-!
What a record that is too long does to those behind it. A client fails to append it for its length
alone, and keeps its connection. So it is not given up and not sent either: all that comes later
waits behind it, as long as the buffer has room (`Blocked.calls`). Main statement:
`overlong_blocks`.
-/

namespace SessionRecorder

open Bytes Wire

namespace Audited

section

variable {σ ρ : Type} [ContextStore σ] {a b : Audited σ ρ}

/-- A buffer that has let nothing go never did. -/
theorem Step.lossless (h : Step a b) (hb : b.router.outbox.buffer.overflow = 0) :
    a.router.outbox.buffer.overflow = 0 := by
  cases h with
  | waiting d _ | failed d _ _ _ => exact (RetryBuffer.enqueue_lossless hb).1
  | _ => exact hb

theorem Steps.lossless (h : Steps a b) :
    b.router.outbox.buffer.overflow = 0 → a.router.outbox.buffer.overflow = 0 :=
  h.keeps (Q := fun x => x.router.outbox.buffer.overflow = 0 →
    a.router.outbox.buffer.overflow = 0) (fun hstep hx hy => hx (hstep.lossless hy)) id

theorem submit_of_failed {context : UInt64} {record : Record} {e : StoreError} {store : σ}
    (hw : a.router.outbox.waits = false) (he : e.isProtocol = false)
    (happ : ContextStore.append 0 (record.into context) a.router.outbox.store = (.error e, store)) :
    a.submit context record =
      ⟨{ a.router with outbox := (a.router.withStore store).outbox.postpone (record.into context) },
        a.ledger.submit (record.into context)⟩ := by
  rw [Record.into] at happ
  simp only [submit, Router.submit, Outbox.submit, Outbox.deliver, Outbox.enter, Record.into, hw,
    happ, he, Bool.false_eq_true, ↓reduceIte]
  rfl

end

section

variable {ν ρ κ : Type} [Network ν] {a b : Audited (Client ν) ρ}

/-- The session has a connection and contexts, and the first record that waits is too long. -/
structure Blocked (d : Delivery) (a : Audited (Client ν) ρ) : Prop where
  connected : a.router.isConnected = true
  opened : a.router.contexts.isSome = true
  first : a.router.outbox.buffer.records.head? = some d
  overlong : d.Overlong

/-- Nothing was sent from `a` to `b`, and all that was submitted waits. -/
structure Queued (a b : Audited (Client ν) ρ) : Prop where
  connected : b.router.isConnected = a.router.isConnected
  contexts : b.router.contexts = a.router.contexts
  acknowledged : b.ledger.acknowledged = a.ledger.acknowledged
  behind : ∃ more, b.ledger.submitted = a.ledger.submitted ++ more ∧
    b.router.outbox.buffer.records = a.router.outbox.buffer.records ++ more

theorem Queued.refl (a : Audited (Client ν) ρ) : a.Queued a :=
  ⟨rfl, rfl, rfl, [], (List.append_nil _).symm, (List.append_nil _).symm⟩

theorem Queued.trans {x : Audited (Client ν) ρ} (h : a.Queued b) (h' : b.Queued x) :
    a.Queued x := by
  obtain ⟨more, hsubmitted, hrecords⟩ := h.behind
  obtain ⟨last, hsubmitted', hrecords'⟩ := h'.behind
  refine ⟨h'.connected.trans h.connected, h'.contexts.trans h.contexts,
    h'.acknowledged.trans h.acknowledged, more ++ last, ?_, ?_⟩
  · rw [hsubmitted', hsubmitted, List.append_assoc]
  · rw [hrecords', hrecords, List.append_assoc]

theorem Blocked.queued {d : Delivery} (h : a.Blocked d) (hqueued : a.Queued b) : b.Blocked d := by
  obtain ⟨more, _, hrecords⟩ := hqueued.behind
  refine ⟨hqueued.connected.trans h.connected, ?_, ?_, h.overlong⟩
  · rw [hqueued.contexts, h.opened]
  · rw [hrecords, List.head?_append, h.first]
    rfl

theorem Blocked.waits {d : Delivery} (h : a.Blocked d) : a.router.outbox.waits = true := by
  have hfirst := h.first
  cases hrecords : a.router.outbox.buffer.records with
  | nil =>
    rw [hrecords] at hfirst
    cases hfirst
  | cons x rest => simp [Outbox.waits, RetryBuffer.isEmpty, hrecords]

theorem Blocked.submit {d : Delivery} (context : UInt64) (record : Record) (h : a.Blocked d)
    (hlossless : (a.submit context record).router.outbox.buffer.overflow = 0) :
    a.Queued (a.submit context record) := by
  rw [submit_of_waits context record h.waits] at hlossless ⊢
  obtain ⟨_, hrecords⟩ := RetryBuffer.enqueue_lossless hlossless
  exact ⟨rfl, rfl, rfl, [record.into context], rfl, hrecords⟩

theorem Blocked.submitItems {d : Delivery} (context : UInt64) (items : List Payload)
    (h : a.Blocked d)
    (hlossless : (a.submitItems context items).router.outbox.buffer.overflow = 0) :
    a.Queued (a.submitItems context items) := by
  induction items generalizing a with
  | nil => exact .refl a
  | cons item rest ih =>
    have hfirst : a.Queued (a.submit context ⟨.conversationItem, item⟩) :=
      h.submit context _ ((steps_submitItems context rest _).lossless hlossless)
    exact hfirst.trans (ih (h.queued hfirst) hlossless)

theorem Blocked.follow {d : Delivery} (c : Call) (decision : Decision) (h : a.Blocked d)
    (hlossless : (a.follow c decision).router.outbox.buffer.overflow = 0) :
    a.Queued (a.follow c decision) := by
  cases decision with
  | dropped => exact .refl a
  | recorded finished =>
    let recorded := a.recordEvent c.readings.event c.event c.data
    have hrecorded : a.Queued recorded := by
      have hevent : recorded.router.outbox.buffer.overflow = 0 :=
        (steps_recordTurn c.readings.turn finished recorded).lossless hlossless
      unfold recorded recordEvent Router.recordEvent at hevent ⊢
      cases hcontexts : a.router.contexts with
      | none => exact .refl a
      | some contexts =>
        simp only [hcontexts] at hevent ⊢
        exact h.submit contexts.events _ hevent
    change (recorded.recordTurn c.readings.turn finished).router.outbox.buffer.overflow = 0
      at hlossless
    change a.Queued (recorded.recordTurn c.readings.turn finished)
    unfold recordTurn at hlossless ⊢
    split at hlossless
    · exact hrecorded.trans ((h.queued hrecorded).submitItems _ _ hlossless)
    · exact hrecorded

/-- The record that is too long stops the sending, and the connection stays. -/
theorem Blocked.sendPending {d : Delivery} (h : a.Blocked d) :
    ∃ lastRequest journal, a.sendPending = a.become
      ((a.router.withStore { a.router.outbox.store with lastRequest }).report journal) := by
  obtain ⟨rest, hrecords⟩ : ∃ rest, a.router.outbox.buffer.records = d :: rest :=
    List.head?_eq_some_iff.1 h.first
  obtain ⟨e, lastRequest, happ⟩ : ∃ e lastRequest,
      ContextStore.append 0 d a.router.outbox.store =
        (.error (.wire e), { a.router.outbox.store with lastRequest }) :=
    Client.append_overlong h.overlong h.connected
  have hempty : a.router.outbox.buffer.isEmpty = false := by
    simp [RetryBuffer.isEmpty, hrecords]
  have hbuffer : { a.router.outbox.buffer with records := d :: rest } = a.router.outbox.buffer := by
    rw [← hrecords]
  obtain ⟨journal, hdrain⟩ := Outbox.drainRecords_stopped 0 rest happ rfl
  refine ⟨lastRequest, journal, ?_⟩
  unfold Audited.sendPending Audited.drain Outbox.drain Outbox.enterDrain
  simp only [h.connected, hempty, hrecords, hdrain, Outbox.acknowledgedOf_stopped rest happ rfl,
    hbuffer, Bool.not_false, Bool.and_self, ↓reduceIte, Nat.add_zero, List.append_nil]
  rfl

theorem Blocked.catchUp {d : Delivery} (h : a.Blocked d) : a.Queued a.catchUp := by
  obtain ⟨lastRequest, journal, hsend⟩ := h.sendPending
  have hrouter := router_sendPending a
  rw [hsend] at hrouter
  have hcatchUp : a.catchUp = a.sendPending.become (a.router.sendPending.2.report
    (Router.sentReport a.router.sendPending.1 a.router.sendPending.2.outbox.buffer.size)) := rfl
  rw [hcatchUp, hsend, ← hrouter]
  exact ⟨rfl, rfl, rfl, [], (List.append_nil _).symm, (List.append_nil _).symm⟩

variable [RegistryPublisher ρ]

/-- Where there are a connection and contexts, there is nothing to prepare. -/
theorem prepare_connected (time : Int64) (hconnected : a.router.isConnected = true)
    (hopened : a.router.contexts.isSome = true) : a.prepare time = a := by
  have hnone : a.router.contexts.isNone = false := by
    rw [← Option.not_isSome, hopened]
    rfl
  simp only [prepare, Router.prepare, hnone, hconnected, Bool.false_eq_true, ↓reduceIte]

/-- A call behind a record that is too long sends nothing. -/
theorem Blocked.handle {d : Delivery} (c : Call) (h : a.Blocked d)
    (hlossless : (a.handle c).router.outbox.buffer.overflow = 0) : a.Queued (a.handle c) := by
  have hfollows := handle_follows c a
  rw [prepare_connected _ h.connected h.opened] at hfollows
  obtain ⟨decision, pipeline, journal, _, hhandle⟩ := hfollows
  rw [hhandle] at hlossless ⊢
  have hthought : a.Queued (a.catchUp.become { a.catchUp.router with pipeline }) :=
    ⟨h.catchUp.connected, h.catchUp.contexts, h.catchUp.acknowledged, h.catchUp.behind⟩
  have hfollowed := hthought.trans ((h.queued hthought).follow c decision hlossless)
  exact ⟨hfollowed.connected, hfollowed.contexts, hfollowed.acknowledged, hfollowed.behind⟩

/-- The record of an event that is too long blocks a session in which nothing else waits. -/
theorem blocked_handle {contexts : SessionContexts} (c : Call)
    (hconnected : a.router.isConnected = true) (hcontexts : a.router.contexts = some contexts)
    (hempty : a.router.outbox.buffer.records = [])
    (hdecision : (a.router.pipeline.step c.readings.steady c.event c.data).1 = .recorded none) :
    let d := (Record.ofEvent a.router.config.shape c.event c.data a.router.lineage
      c.readings.event).into contexts.events
    d.Overlong → (a.handle c).Blocked d ∧ (a.handle c).router.outbox.buffer.records = [d] := by
  intro d hlong
  have hfollows := handle_follows c a
  have hcatchUp : a.catchUp = a.become (a.router.report []) := by
    simp only [catchUp, sendPending, Router.catchUp, Router.sendPending, RetryBuffer.isEmpty,
      hempty, List.isEmpty_nil, Bool.not_true, Bool.and_false, Bool.false_eq_true, ↓reduceIte]
    rfl
  rw [prepare_connected _ hconnected (by rw [hcontexts]; rfl), hcatchUp] at hfollows
  obtain ⟨decision, pipeline, journal, hstep, hhandle⟩ := hfollows
  obtain rfl : decision = .recorded none := by
    rw [← hdecision]
    exact (congrArg Prod.fst hstep).symm
  let ready : Audited (Client ν) ρ := a.become { a.router.report [] with pipeline }
  have hsubmit : ready.follow c (.recorded none) = ready.submit contexts.events
      (.ofEvent a.router.config.shape c.event c.data a.router.lineage c.readings.event) := by
    have hopened : ready.router.contexts = some contexts := hcontexts
    simp only [Audited.follow, recordTurn, recordEvent, Router.recordEvent, hopened]
    rfl
  have hwaits : ready.router.outbox.waits = false := by
    have hempty' : ready.router.outbox.buffer.records = [] := hempty
    have hconnected' : ready.router.outbox.isConnected = true := hconnected
    simp [Outbox.waits, RetryBuffer.isEmpty, hempty', hconnected']
  obtain ⟨e, lastRequest, happ⟩ := Client.append_overlong hlong hconnected
  change a.handle c = (ready.follow c (.recorded none)).become
    ((ready.follow c (.recorded none)).router.report journal) at hhandle
  rw [hsubmit, submit_of_failed hwaits rfl happ] at hhandle
  have hrecords : (a.handle c).router.outbox.buffer.records = [d] := by
    rw [hhandle]
    change (a.router.outbox.buffer.enqueue d).1.records = [d]
    rw [RetryBuffer.records_enqueue, RetryBuffer.evict]
    split
    · rw [hempty]
      rfl
    · simp only [hempty]
      rfl
  refine ⟨⟨?_, ?_, ?_, hlong⟩, hrecords⟩
  · rw [hhandle]
    exact hconnected
  · rw [hhandle]
    exact congrArg Option.isSome hcontexts
  · rw [hrecords]
    rfl

/-- As long as the buffer lets nothing go, calls behind a record that is too long send nothing. -/
theorem Blocked.calls {d : Delivery} (change : κ → Client ν → Client ν) (calls : List Call)
    (h : a.Blocked d)
    (hlossless : (a.run change (calls.map .event)).router.outbox.buffer.overflow = 0) :
    a.Queued (a.run change (calls.map .event)) := by
  induction calls generalizing a with
  | nil => exact .refl a
  | cons c rest ih =>
    have hfirst : (a.handle c).router.outbox.buffer.overflow = 0 := by
      refine run_keeps (Q := fun x => x.router.outbox.buffer.overflow = 0 →
        (a.handle c).router.outbox.buffer.overflow = 0) ?_ ?_ id (rest.map .event) hlossless
      · exact fun hstep hx hy => hx (hstep.lossless hy)
      · exact fun _ hx => hx
    have hqueued := h.handle c hfirst
    exact hqueued.trans (ih (h.queued hqueued) hlossless)

end

end Audited

/-! ## A record of a long text -/

theorem Msgpack.length_write_le {key value : Msgpack} {entries : List (Msgpack × Msgpack)}
    (h : (key, value) ∈ entries) : value.write.length ≤ (Msgpack.map entries).write.length := by
  have hentries : value.write.length ≤ (writeEntries entries).length := by
    induction entries with
    | nil => cases h
    | cons e rest ih =>
      obtain ⟨k, v⟩ := e
      simp only [writeEntries, List.length_append]
      rcases List.mem_cons.1 h with heq | hrest
      · cases heq
        omega
      · have := ih hrest
        omega
  simp only [write, List.length_append]
  omega

theorem Payload.length_write_le {p : Payload} {tag : UInt64} {value : Msgpack}
    (h : (tag, value) ∈ p.entries) : value.write.length ≤ p.serialize.length :=
  Msgpack.length_write_le (List.mem_map.2 ⟨_, h, rfl⟩)

/-- The flat record of an event whose data holds a text that is too long is too long itself. -/
theorem overlong_of_text (event key text : String) (l : Lineage) (time : Int64) (context : UInt64)
    (hkey : Envelope.ownKeys.contains key = false) (htext : 2 ^ 32 ≤ (Text.utf8 text).length) :
    ((Record.ofEvent .envelope event (.object [(key, .string text)]) l time).into
      context).Overlong := by
  let data : Json := .object [(key, .string text)]
  let value : Msgpack := .map [(.str key, .str text)]
  have hdata : (Envelope.eventData data).map Msgpack.ofJson = some value := by
    simp only [data, Envelope.eventData, List.filter_cons, hkey, Bool.not_false, ↓reduceIte]
    rfl
  have hentry : (Envelope.dataTag, value) ∈ (Envelope.ofEvent event data l time).entries := by
    unfold Envelope.ofEvent Envelope.withSize
    rw [Payload.entries_ofFields (by simp only [List.map_cons, List.map_nil]; decide), hdata]
    refine List.mem_filterMap.2 ⟨(Envelope.dataTag, some value), ?_, rfl⟩
    simp
  have hvalue : value.write.length ≤ (Envelope.ofEvent event data l time).serialize.length :=
    Payload.length_write_le hentry
  have hmember : (Msgpack.str text).write.length ≤ value.write.length :=
    Msgpack.length_write_le List.mem_cons_self
  have hstring : (Text.utf8 text).length ≤ (Msgpack.str text).write.length := by
    simp only [Msgpack.write, List.length_append]
    omega
  have hlength := ((Record.ofEvent .envelope event data l time).into context).length_requestBody
  have hpayload : ((Record.ofEvent .envelope event data l time).into context).payload =
      (Envelope.ofEvent event data l time).serialize := rfl
  rw [hpayload] at hlength
  change 2 ^ 32 ≤ ((Record.ofEvent .envelope event data l time).into context).requestBody.length
  omega

namespace Sample

/-- A peer that answers every request with a context of the request's own number, at its
beginning. -/
def obliging : ScriptedPeer where
  reply := some ⟨fun request => Wire.Frame.encode ⟨request.messageType, 0, request.requestId,
    ofNatLE 8 (request.requestId.toNat - 1) ++ ofNatLE 12 0⟩, false⟩

def client : Client ScriptedPeer := { config := Client.Sample.config, net := obliging }

def longText : String := String.ofList (List.replicate (2 ^ 32) 'a')

/-- An artifact that no request can hold. -/
def artifact : Call := call 3 "artifact:write" [("content", .string longText)]

end Sample

/-- A record that is too long for a request stays at the front of what waits, while the client
is connected. Then no call sends anything, and all its records wait behind that one, for as long
as the buffer has room. -/
theorem overlong_blocks :
    let start : Audited (Client ScriptedPeer) CountingPublisher := ⟨.create Sample.client
      Sample.lineage Sample.config Sample.identity [] .createNew Sample.publisher, {}⟩
    let a := (start.setUp 0).handle Sample.artifact
    let d := (Record.ofEvent .envelope Sample.artifact.event Sample.artifact.data Sample.lineage
      Sample.artifact.readings.event).into 2
    d.Overlong ∧ a.router.isConnected = true ∧ a.router.outbox.buffer.records = [d] ∧
      ∀ calls : List Call,
        let b := a.run (fun (_ : Unit) store => store) (calls.map .event)
        b.router.outbox.buffer.overflow = 0 →
          b.router.isConnected = true ∧ b.ledger.acknowledged = a.ledger.acknowledged ∧
          ∃ more, b.ledger.submitted = a.ledger.submitted ++ more ∧
            b.router.outbox.buffer.records = d :: more := by
  intro start
  have hopened : (start.setUp 0).router.isConnected = true ∧
      (start.setUp 0).router.contexts = some ⟨1, 2, none, none⟩ ∧
      (start.setUp 0).router.outbox.buffer.records = [] := by decide +kernel
  have halike : start.router.Alike (start.setUp 0).router := (Audited.steps_setUp 0 start).alike
  have hshape : (start.setUp 0).router.config.shape = .envelope := congrArg (·.shape) halike.config
  have hlineage : (start.setUp 0).router.lineage = Sample.lineage := halike.lineage
  generalize start.setUp 0 = opened at hopened hshape hlineage
  intro a d
  obtain ⟨hconnected, hcontexts, hempty⟩ := hopened
  have hdecision : (opened.router.pipeline.step Sample.artifact.readings.steady
      Sample.artifact.event Sample.artifact.data).1 = .recorded none := by
    have hplain : Catalog.hasVariants Sample.artifact.event = false := by decide
    have hllm : Text.startsWith Sample.artifact.event "llm:" = false := by decide
    have hend : Sample.artifact.event ≠ Pipeline.cycleEnd := by decide
    simp [Pipeline.step, Deduplicator.accept_plain hplain, Accumulator.isStraggler, hllm, hend]
  have hlong : d.Overlong := overlong_of_text "artifact:write" "content" Sample.longText
    Sample.lineage (.ofNat 3) 2 (by decide) (Nat.le_of_eq (Text.length_utf8_replicate _).symm)
  have hhandled := Audited.blocked_handle Sample.artifact hconnected hcontexts hempty hdecision
  rw [hshape, hlineage] at hhandled
  obtain ⟨hblocked, hrecords⟩ := hhandled hlong
  refine ⟨hlong, hblocked.connected, hrecords, ?_⟩
  intro calls b hlossless
  have hqueued := hblocked.calls (fun (_ : Unit) store => store) calls hlossless
  refine ⟨hqueued.connected.trans hblocked.connected, hqueued.acknowledged, ?_⟩
  have hbehind := hqueued.behind
  rw [hrecords] at hbehind
  exact hbehind

end SessionRecorder
