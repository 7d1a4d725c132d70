import SessionRecorder.Proofs.Conservation
import SessionRecorder.Proofs.LossyClient
import SessionRecorder.Proofs.ConnectionState
import SessionRecorder.Proofs.Submissions

/-!
What records wait for over a client. An append that fails was answered or has lost the connection,
unless its record is too long for any request (`append_error`). So when a call has returned with
the client connected, records can wait only for one that is too long. Main statement:
`waits_for_connection`.
-/

namespace SessionRecorder

open Bytes Wire

/-- No frame can hold the request that appends the delivery. -/
def Delivery.Overlong (d : Delivery) : Prop := 2 ^ 32 ≤ d.requestBody.length

theorem Delivery.length_requestBody (d : Delivery) :
    d.requestBody.length = (Text.utf8 d.type.id).length + d.payload.length + 108 := by
  simp only [requestBody, AppendRequest.ofPayload, AppendRequest.body, List.length_append,
    length_ofNatLE, Digest.Hash.length_octets]
  omega

/-- Where a frame can hold the request, there is one. -/
theorem Delivery.encode_of_not_overlong {d : Delivery} (h : ¬ d.Overlong) :
    (AppendRequest.ofPayload d.context 0 d.type.id d.type.version d.payload).encode =
      .ok d.requestBody := by
  have hlength := d.length_requestBody
  rw [Overlong] at h
  have htype : ¬ 2 ^ 32 ≤ (Text.utf8 d.type.id).length := by omega
  have hpayload : ¬ 2 ^ 32 ≤ d.payload.length := by omega
  simp only [AppendRequest.encode, AppendRequest.ofPayload, htype, hpayload, ↓reduceIte]
  rfl

namespace Client

variable {ν : Type} [Network ν] {s t : Client ν}

/-! ## Appends that fail -/

theorem outcome_error {type : MessageType} {limit : Duration} {ended : Io (UInt16 × Bytes)}
    {e : StoreError} (h : outcome type limit ended = .error e) :
    e.isConnection = true ∨ e.isProtocol = true := by
  unfold outcome at h
  split at h
  · split at h <;> cases h
    exact .inr rfl
  · cases h
    exact .inl rfl
  · cases h
    exact .inl rfl

/-- An exchange that fails has got an error as answer or has lost the connection, unless there
was no frame to send. -/
theorem exchange_error {c : Network.Connection ν} {type : MessageType} {id : UInt64}
    {body : Bytes} {limit : Duration} {net : ν} {e : StoreError}
    (h : (exchange c type id body limit net).1 = .error e) (hbody : body.length < 2 ^ 32) :
    e.isConnection = true ∨ e.isProtocol = true := by
  simp only [exchange, Frame.encode?, hbody, ↓reduceIte] at h
  exact outcome_error h

theorem request_error {type : MessageType} {body : Bytes} {e : StoreError}
    (h : s.request type body = (.error e, t)) (hbody : body.length < 2 ^ 32) :
    t.connection = none ∨ e.isProtocol = true := by
  unfold request at h
  split at h
  · rename_i hnone
    cases h
    exact .inl hnone
  · rename_i c _
    rcases hexchange : exchange c type (s.lastRequest + 1) body s.config.requestTimeout s.net with
      ⟨e' | answer, net⟩ <;> simp only [hexchange] at h
    · have herror := exchange_error (congrArg Prod.fst hexchange) hbody
      split at h
      · cases h
        exact .inl rfl
      · rename_i hkept
        cases h
        rcases herror with hlost | hrefused
        · exact absurd hlost hkept
        · exact .inr hrefused
    · cases h

theorem contextHead_isProtocol {type : MessageType} {answer : Bytes} {e : StoreError}
    (h : contextHead type answer = .error e) : e.isProtocol = true := by
  unfold contextHead require at h
  split at h <;> cases h
  rfl

/-- An append that fails was answered or has lost the connection, unless its record is too long
for a request. -/
theorem append_error {d : Delivery} {e : StoreError} (h : s.append 0 d = (.error e, t))
    (hd : ¬ d.Overlong) : t.connection = none ∨ e.isProtocol = true := by
  unfold append at h
  split at h
  · rename_i hnone
    cases h
    exact .inl (Option.isNone_iff_eq_none.1 hnone)
  · rw [Delivery.encode_of_not_overlong hd] at h
    rcases hrequest : s.request .appendTurn d.requestBody with ⟨e' | answer, next⟩ <;>
      simp only [hrequest, Prod.mk.injEq] at h <;>
      obtain ⟨hresult, rfl⟩ := h
    · cases hresult
      exact request_error hrequest (Nat.not_le.1 hd)
    · exact .inr (contextHead_isProtocol hresult)

/-- A record that is too long fails before anything is sent. -/
theorem append_overlong {d : Delivery} (h : d.Overlong) (hs : s.connection.isSome) :
    ∃ e lastRequest, s.append 0 d = (.error (.wire e), { s with lastRequest }) := by
  obtain ⟨c, hc⟩ := Option.isSome_iff_exists.1 hs
  have hframe (id : UInt64) : Frame.encode? ⟨MessageType.appendTurn.code, 0, id, d.requestBody⟩ =
      .error (.lengthOverflow "payload" d.requestBody.length) := if_neg (Nat.not_lt.2 h)
  unfold append
  simp only [hc, Option.isNone_some, Bool.false_eq_true, ↓reduceIte]
  split
  · exact ⟨_, s.lastRequest, by rw [← hc]⟩
  · rename_i body hencode
    obtain rfl := body_of_encode hencode
    simp only [request, hc, exchange, hframe, StoreError.isConnection, Bool.false_eq_true,
      ↓reduceIte]
    exact ⟨_, _, rfl⟩

end Client

/-- Sending over a client goes on to the last record, unless the connection is lost or a record
is too long. -/
theorem Outbox.drainRecords_flows {ν : Type} [Network ν] (run : Nat) (ds : List Delivery)
    (s : Client ν) :
    let r := drainRecords run ds s
    r.remaining = [] ∨ r.store.connection = none ∨ ∃ d ∈ ds, d.Overlong := by
  induction ds generalizing run s with
  | nil => exact .inl rfl
  | cons d rest ih =>
    -- What holds once the first record is gone.
    have hrest (run : Nat) (next : Client ν) :
        (drainRecords run rest next).remaining = [] ∨
          (drainRecords run rest next).store.connection = none ∨ ∃ x ∈ d :: rest, x.Overlong := by
      rcases ih run next with hempty | hlost | ⟨x, hx, hlong⟩
      · exact .inl hempty
      · exact .inr (.inl hlost)
      · exact .inr (.inr ⟨x, List.mem_cons_of_mem d hx, hlong⟩)
    intro r
    rcases happ : ContextStore.append 0 d s with ⟨e | ack, next⟩
    · cases he : e.isProtocol with
      | true =>
        obtain ⟨journal, hdrain⟩ := drainRecords_refused run rest happ he
        simp only [r, hdrain]
        exact hrest 0 next
      | false =>
        obtain ⟨journal, hdrain⟩ := drainRecords_stopped run rest happ he
        simp only [r, hdrain]
        by_cases hlong : d.Overlong
        · exact .inr (.inr ⟨d, List.mem_cons_self, hlong⟩)
        · rcases Client.append_error happ hlong with hlost | hprotocol
          · exact .inr (.inl hlost)
          · rw [he] at hprotocol
            cases hprotocol
    · simp only [r, drainRecords_ok run rest happ]
      exact hrest (run + 1) next

/-- What waits in a buffer with one more record is that record or waited before. -/
theorem RetryBuffer.mem_enqueue {d x : Delivery} {b : RetryBuffer}
    (h : x ∈ (b.enqueue d).1.records) : x = d ∨ x ∈ b.records := by
  rw [records_enqueue] at h
  rcases List.mem_append.1 h with hold | hnew
  · right
    unfold evict at hold
    split at hold
    · exact hold
    · exact List.mem_of_mem_tail hold
  · exact .inl (List.mem_singleton.1 hnew)

namespace Audited

section

variable {σ ρ : Type} [ContextStore σ] {a b : Audited σ ρ}

/-- What waits was submitted. -/
def Held (a : Audited σ ρ) : Prop :=
  ∀ d ∈ a.router.outbox.buffer.records, d ∈ a.ledger.submitted

theorem Held.step (hstep : Step a b) (h : a.Held) : b.Held := by
  have hpostpone (o : Outbox σ) (d : Delivery) (hbuffer : o.buffer = a.router.outbox.buffer) :
      ∀ x ∈ (o.postpone d).buffer.records, x ∈ (a.ledger.submit d).submitted := by
    intro x hx
    refine List.mem_append.2 ?_
    rcases RetryBuffer.mem_enqueue hx with rfl | hold
    · exact .inr (List.mem_singleton.2 rfl)
    · rw [hbuffer] at hold
      exact .inl (h x hold)
  cases hstep with
  | waiting d _ => exact hpostpone _ d rfl
  | failed d _ _ _ => exact hpostpone _ d rfl
  | accepted d _ _ | refused d _ _ _ => exact fun x hx => List.mem_append_left _ (h x hx)
  | sent hrecords _ | rejected hrecords _ _ =>
    intro x hx
    refine h x ?_
    rw [hrecords]
    exact List.mem_cons_of_mem _ hx
  | _ => exact h

theorem submit_of_waits (context : UInt64) (record : Record)
    (h : a.router.outbox.waits = true) : a.submit context record =
      ⟨{ a.router with outbox := a.router.outbox.postpone (record.into context) },
        a.ledger.submit (record.into context)⟩ := by
  simp only [submit, Router.submit, Outbox.submit, Outbox.deliver, Outbox.enter, h, ↓reduceIte]
  rfl

end

section

variable {ν ρ : Type} [Network ν] {a : Audited (Client ν) ρ}

/-! ## Nothing else waits for a client that is connected -/

/-- Nothing waits, or there is no connection, or a record was submitted that is too long. -/
def Flows (a : Audited (Client ν) ρ) : Prop :=
  a.router.outbox.buffer.records = [] ∨ a.router.isConnected = false ∨
    ∃ d ∈ a.ledger.submitted, d.Overlong

theorem Flows.submit (context : UInt64) (record : Record) (h : a.Flows) :
    (a.submit context record).Flows := by
  cases hw : a.router.outbox.waits with
  | true =>
    rw [submit_of_waits context record hw]
    rcases h with hempty | hlost | ⟨d, hd, hlong⟩
    · have hlost : a.router.outbox.isConnected = false := by
        simpa [Outbox.waits, RetryBuffer.isEmpty, hempty] using hw
      exact .inr (.inl hlost)
    · exact .inr (.inl hlost)
    · exact .inr (.inr ⟨d, List.mem_append_left _ hd, hlong⟩)
  | false =>
    have hempty := records_of_not_waits hw
    have hledger : record.into context ∈ (a.submit context record).ledger.submitted := by
      rw [submitted_submit]
      exact List.mem_append_right _ (List.mem_singleton.2 rfl)
    change (a.router.submit context record).2.outbox.buffer.records = [] ∨
      (a.router.submit context record).2.outbox.isConnected = false ∨ _
    unfold Router.submit Outbox.submit Outbox.deliver
    rcases happ : ContextStore.append 0 ⟨context, record.type, record.payload.serialize⟩
      a.router.outbox.store with ⟨e | ack, store⟩
    · cases he : e.isProtocol with
      | true =>
        simp only [hw, he, Bool.false_eq_true, ↓reduceIte]
        exact .inl hempty
      | false =>
        simp only [hw, he, Bool.false_eq_true, ↓reduceIte]
        by_cases hlong : (record.into context).Overlong
        · exact .inr (.inr ⟨_, hledger, hlong⟩)
        · rcases Client.append_error happ hlong with hlost | hprotocol
          · exact .inr (.inl (congrArg Option.isSome hlost))
          · rw [he] at hprotocol
            cases hprotocol
    · simp only [hw, Bool.false_eq_true, ↓reduceIte]
      exact .inl hempty

theorem Flows.submitItems (context : UInt64) (items : List Payload) (h : a.Flows) :
    (a.submitItems context items).Flows := by
  induction items generalizing a with
  | nil => exact h
  | cons item rest ih => exact ih (h.submit context ⟨.conversationItem, item⟩)

theorem Flows.follow (c : Call) (decision : Decision) (h : a.Flows) :
    (a.follow c decision).Flows := by
  cases decision with
  | dropped => exact h
  | recorded finished =>
    have hevent : (a.recordEvent c.readings.event c.event c.data).Flows := by
      unfold recordEvent Router.recordEvent
      cases a.router.contexts with
      | none => exact h
      | some contexts => exact h.submit contexts.events _
    change ((a.recordEvent c.readings.event c.event c.data).recordTurn c.readings.turn
      finished).Flows
    unfold recordTurn
    split
    · exact hevent.submitItems _ _
    · exact hevent

/-- What waits is sent over a connection, before anything else is. -/
theorem Held.flows_catchUp (h : a.Held) : a.catchUp.Flows := by
  have hledger : a.catchUp.ledger.submitted = a.ledger.submitted := submitted_catchUp a
  change a.router.catchUp.outbox.buffer.records = [] ∨ a.router.catchUp.isConnected = false ∨ _
  rw [hledger]
  unfold Router.catchUp Router.sendPending
  cases hconnected : a.router.isConnected with
  | false => exact .inr (.inl hconnected)
  | true =>
    cases hempty : a.router.outbox.buffer.isEmpty with
    | true => exact .inl (List.isEmpty_iff.1 hempty)
    | false =>
      simp only [Bool.not_false, Bool.and_true, ↓reduceIte]
      rcases Outbox.drainRecords_flows 0 a.router.outbox.buffer.records a.router.outbox.store with
        hsent | hlost | ⟨d, hd, hlong⟩
      · exact .inl hsent
      · exact .inr (.inl (congrArg Option.isSome hlost))
      · exact .inr (.inr ⟨d, h d hd, hlong⟩)

variable [RegistryPublisher ρ]

theorem Held.flows_handle (c : Call) (h : a.Held) : (a.handle c).Flows := by
  have hready : (a.prepare c.readings.setUp).catchUp.Flows :=
    ((steps_prepare c.readings.setUp a).keeps Held.step h).flows_catchUp
  obtain ⟨decision, pipeline, journal, _, hhandle⟩ := handle_follows c a
  rw [hhandle]
  have hthought : ((a.prepare c.readings.setUp).catchUp.become
    { (a.prepare c.readings.setUp).catchUp.router with pipeline }).Flows := hready
  exact hthought.follow c decision

end

end Audited

/-- When a call has returned, records wait only where the client has lost its connection or a
record was handed over that no request can hold. -/
theorem waits_for_connection {ν ρ κ : Type} [Network ν] [RegistryPublisher ρ]
    (change : κ → Client ν → Client ν) (client : Client ν) (l : Lineage) (config : RouterConfig)
    (identity : Identity) (known : List String) (resolver : Resolver (Client ν))
    (publisher : Option ρ) (actions : List (Action κ)) (c : Call) :
    let start : Router (Client ν) ρ :=
      .create client l config identity known resolver publisher
    let a := (Audited.run change ⟨start, {}⟩ actions).handle c
    a.router = (start.run change actions).handle c ∧
      (a.router.outbox.buffer.records = [] ∨ a.router.outbox.store.connection = none ∨
        ∃ d ∈ a.ledger.submitted, d.Overlong) := by
  intro start a
  have hheld : (Audited.run change ⟨start, {}⟩ actions).Held := by
    refine Audited.run_keeps Audited.Held.step (fun _ h => h) ?_ actions
    intro d hd
    cases hd
  have hrouter : a.router = (start.run change actions).handle c :=
    congrArg (·.handle c) (Audited.router_run change ⟨start, {}⟩ actions)
  refine ⟨hrouter, ?_⟩
  rcases hheld.flows_handle c with hempty | hlost | hlong
  · exact .inl hempty
  · exact .inr (.inl (Option.isNone_iff_eq_none.1 (Option.isSome_eq_false_iff.1 hlost)))
  · exact .inr (.inr hlong)

end SessionRecorder
