import SessionRecorder.Proofs.ExactlyOnce
import SessionRecorder.Proofs.Submissions
import SessionRecorder.Proofs.TappedClient

/-!
What a router writes for a record, over any network. Each request to append is written for the
record that is handed over, or for the oldest one that waits, which is the record that was
submitted so many records ago (`Trail`). Whichever way it is sent, and however often, the body is
that of the record as it was submitted. Main statement: `replays_identical`.
-/

namespace SessionRecorder

open Wire

/-! ## The records that are handed over -/

/-- Every delivery was handed over as a record for a context. -/
def Ledger.Recorded (l : Ledger) : Prop :=
  ∀ d ∈ l.submitted, ∃ context record, d = Record.into context record

namespace Audited

section

variable {σ ρ κ : Type} [ContextStore σ] {a : Audited σ ρ}

theorem recorded_submit (context : UInt64) (record : Record) (h : a.ledger.Recorded) :
    (a.submit context record).ledger.Recorded := by
  intro d hd
  rw [submitted_submit, List.mem_append, List.mem_singleton] at hd
  rcases hd with hd | rfl
  · exact h d hd
  · exact ⟨context, record, rfl⟩

theorem recorded_openContexts (contexts : SessionContexts) (time : Int64)
    (h : a.ledger.Recorded) : (a.openContexts contexts time).ledger.Recorded :=
  recorded_submit _ _ (recorded_submit _ _ h)

theorem recorded_recordEvent (time : Int64) (event : String) (data : Json)
    (h : a.ledger.Recorded) : (a.recordEvent time event data).ledger.Recorded := by
  unfold recordEvent
  cases a.router.contexts with
  | none => exact h
  | some contexts => exact recorded_submit _ _ h

theorem recorded_submitItems (context : UInt64) (items : List Payload) (h : a.ledger.Recorded) :
    (a.submitItems context items).ledger.Recorded := by
  induction items generalizing a with
  | nil => exact h
  | cons item rest ih => exact ih (recorded_submit context _ h)

theorem recorded_recordTurn (time : Int64) (finished : Option Turn) (h : a.ledger.Recorded) :
    (a.recordTurn time finished).ledger.Recorded := by
  unfold recordTurn
  split
  · exact recorded_submitItems _ _ h
  · exact h

theorem recorded_follow (c : Call) (decision : Decision) (h : a.ledger.Recorded) :
    (a.follow c decision).ledger.Recorded := by
  cases decision with
  | dropped => exact h
  | recorded finished => exact recorded_recordTurn _ _ (recorded_recordEvent _ _ _ h)

theorem recorded_sendPending (h : a.ledger.Recorded) : a.sendPending.ledger.Recorded := by
  unfold sendPending
  split <;> exact h

theorem recorded_cleanUp (time : Int64) (h : a.ledger.Recorded) :
    (a.cleanUp time).ledger.Recorded :=
  recorded_sendPending (recorded_recordTurn time _ h)

variable [RegistryPublisher ρ]

theorem recorded_setUp (time : Int64) (h : a.ledger.Recorded) :
    (a.setUp time).ledger.Recorded := by
  unfold setUp
  simp only
  split
  · exact h
  · split
    · exact h
    · split
      · exact h
      · exact recorded_openContexts _ time h

theorem recorded_handle (c : Call) (h : a.ledger.Recorded) : (a.handle c).ledger.Recorded := by
  have hprepared : (a.prepare c.readings.setUp).ledger.Recorded := by
    unfold prepare
    simp only
    split
    · exact recorded_setUp _ h
    · exact h
  exact recorded_follow c _ (recorded_sendPending hprepared)

theorem recorded_run (change : κ → σ → σ) (actions : List (Action κ)) (h : a.ledger.Recorded) :
    (a.run change actions).ledger.Recorded := by
  induction actions generalizing a with
  | nil => exact h
  | cons action rest ih =>
    refine ih ?_
    cases action with
    | setUp time => exact recorded_setUp time h
    | event c => exact recorded_handle c h
    | cleanUp time => exact recorded_cleanUp time h
    | outside k => exact h

end

end Audited

theorem RetryBuffer.suffix_enqueue (d : Delivery) {b : RetryBuffer} {ds : List Delivery}
    (h : b.records <:+ ds) : (b.enqueue d).1.records <:+ ds ++ [d] := by
  have hevict : b.evict.records <:+ b.records := by
    unfold evict
    split
    · exact List.suffix_refl _
    · exact List.tail_suffix _
  rw [records_enqueue, List.suffix_append_inj_of_length_eq rfl]
  exact ⟨hevict.trans h, rfl⟩

/-! ## What is written for which record -/

/-- What happens to the network while the client does nothing. -/
def Tapped.meanwhile {ν κ : Type} [Network ν] (change : κ → ν → ν) (k : κ)
    (s : Client (Tapped ν)) : Client (Tapped ν) :=
  { s with net := { s.net with net := change k s.net.net } }

namespace Resolver

variable {ν : Type} [Network ν]

/-- A resolver that writes no request to append. -/
def AppendsNothing (resolver : Resolver (Client (Tapped ν))) : Prop :=
  ∀ l s, (resolver l s).2.2.net.appends = s.net.appends

theorem createNew_appendsNothing : AppendsNothing (createNew : Resolver (Client (Tapped ν))) := by
  intro l s
  have hcreate (s : Client (Tapped ν)) :
      (ContextStore.create 0 s).2.net.appends = s.net.appends := by
    have hnothing : ∀ parent d, StoreCall.create 0 ≠ .append parent d := nofun
    exact Client.appends_perform hnothing s
  unfold createNew
  have hfirst := hcreate s
  rcases h : ContextStore.create 0 s with ⟨e | head, next⟩ <;> rw [h] at hfirst
  · exact hfirst
  · have hsecond := hcreate next
    rcases h' : ContextStore.create 0 next with ⟨e | head, last⟩ <;> rw [h'] at hsecond <;>
      simp only [h'] <;>
      exact hsecond.trans hfirst

theorem forkTurns_appendsNothing (base : UInt64) :
    AppendsNothing (forkTurns base : Resolver (Client (Tapped ν))) := by
  intro l s
  have hfork : (ContextStore.fork base s).2.net.appends = s.net.appends := by
    have hnothing : ∀ parent d, StoreCall.fork base ≠ .append parent d := nofun
    exact Client.appends_perform hnothing s
  unfold forkTurns
  rcases h : ContextStore.fork base s with ⟨e | head, next⟩ <;> rw [h] at hfork
  · exact hfork
  · exact (createNew_appendsNothing l next).trans hfork

theorem fixed_appendsNothing (contexts : SessionContexts) :
    AppendsNothing (fixed contexts : Resolver (Client (Tapped ν))) :=
  fun _ _ => rfl

theorem failing_appendsNothing (e : StoreError) :
    AppendsNothing (failing e : Resolver (Client (Tapped ν))) :=
  fun _ _ => rfl

end Resolver

namespace Audited

variable {ν ρ κ : Type} [Network ν] {start a b : Audited (Client (Tapped ν)) ρ}
  {history more : List (Nat × Bytes)}

/-- The bodies of all requests to append that were written. -/
def appends (a : Audited (Client (Tapped ν)) ρ) : List Bytes := a.router.outbox.store.net.appends

/-- The number of the oldest record that waits, in the order of submission: what waits are the
records that were submitted last. -/
def oldest (a : Audited (Client (Tapped ν)) ρ) : Nat :=
  a.ledger.submitted.length - a.router.outbox.buffer.records.length

/-- A run with its history: the bodies of the requests to append that it has written, each with
the number of the record that it was written for. -/
inductive Trail (start : Audited (Client (Tapped ν)) ρ) :
    Audited (Client (Tapped ν)) ρ → List (Nat × Bytes) → Prop where
  | start : Trail start start []
  /-- A record is handed over, and what is written is for it. -/
  | handedOver {a b : Audited (Client (Tapped ν)) ρ} {history : List (Nat × Bytes)}
      {d : Delivery} {bodies : List Bytes} (h : Trail start a history) (hstep : Step a b)
      (hsubmitted : b.ledger.submitted = a.ledger.submitted ++ [d])
      (hwritten : b.appends = a.appends ++ bodies) :
      Trail start b (history ++ bodies.map (a.ledger.submitted.length, ·))
  /-- None is handed over, and what is written is for the oldest record that waits. -/
  | workedOff {a b : Audited (Client (Tapped ν)) ρ} {history : List (Nat × Bytes)}
      {bodies : List Bytes} (h : Trail start a history) (hstep : Step a b)
      (hsubmitted : b.ledger.submitted = a.ledger.submitted)
      (hwritten : b.appends = a.appends ++ bodies) :
      Trail start b (history ++ bodies.map (a.oldest, ·))
  /-- What a resolver writes is for no record. -/
  | resolved {a : Audited (Client (Tapped ν)) ρ} {history : List (Nat × Bytes)}
      (h : Trail start a history) :
      Trail start (a.become (a.router.withStore
        (a.router.resolver a.router.lineage a.router.outbox.store).2.2)) history
  | outside {a : Audited (Client (Tapped ν)) ρ} {history : List (Nat × Bytes)} (net : ν)
      (h : Trail start a history) :
      Trail start (a.become (a.router.withStore
        (Tapped.meanwhile (fun net _ => net) net a.router.outbox.store))) history

/-- What waits are the last records that were submitted, and what was written for a record is
the body that it had when it was submitted. -/
structure Replayed (a : Audited (Client (Tapped ν)) ρ) (history : List (Nat × Bytes)) : Prop where
  waiting : a.router.outbox.buffer.records <:+ a.ledger.submitted
  bodies : ∀ n body, (n, body) ∈ history →
    ∃ d, a.ledger.submitted[n]? = some d ∧ d.encode = .ok body

theorem Replayed.grow (h : a.Replayed history)
    (hsubmitted : a.ledger.submitted <+: b.ledger.submitted)
    (hwaiting : b.router.outbox.buffer.records <:+ b.ledger.submitted)
    (hmore : ∀ n body, (n, body) ∈ more →
      ∃ d, b.ledger.submitted[n]? = some d ∧ d.encode = .ok body) :
    b.Replayed (history ++ more) := by
  refine ⟨hwaiting, fun n body hmem => ?_⟩
  rcases List.mem_append.1 hmem with hold | hnew
  · obtain ⟨d, hd, hbody⟩ := h.bodies n body hold
    have hlt := (List.getElem?_eq_some_iff.1 hd).1
    obtain ⟨rest, hrest⟩ := hsubmitted
    exact ⟨d, by rw [← hrest, List.getElem?_append_left hlt, hd], hbody⟩
  · exact hmore n body hnew

/-- The record at the front of what waits has the number of the oldest. -/
theorem Replayed.submitted_oldest {d : Delivery} {rest : List Delivery} (h : a.Replayed history)
    (hrecords : a.router.outbox.buffer.records = d :: rest) :
    a.ledger.submitted[a.oldest]? = some d := by
  obtain ⟨front, hfront⟩ := h.waiting
  have hlength : a.oldest = front.length := by
    rw [oldest, ← hfront, List.length_append, Nat.add_sub_cancel]
  rw [hlength, ← hfront, hrecords, List.getElem?_append_right (Nat.le_refl _), Nat.sub_self]
  rfl

/-- An append writes the body of its delivery, or nothing. -/
theorem appends_of_append {d : Delivery} {store : Client (Tapped ν)}
    {result : Except StoreError ContextHead}
    (happ : ContextStore.append 0 d a.router.outbox.store = (result, store)) :
    ∃ bodies, store.net.appends = a.appends ++ bodies ∧ ∀ body ∈ bodies, d.encode = .ok body := by
  have hstore : store = (a.router.outbox.store.append 0 d).2 := (congrArg Prod.snd happ).symm
  rw [hstore]
  rcases Client.appends_append d a.router.outbox.store with hnone | ⟨body, hbody, hone⟩
  · exact ⟨[], by rw [hnone, List.append_nil]; rfl, nofun⟩
  · refine ⟨[body], hone, fun b hb => ?_⟩
    rw [List.mem_singleton.1 hb]
    exact hbody

/-- A record that is handed over gets a number, and what is written for it under that number is
its body. -/
theorem Trail.handOver {d : Delivery} {bodies : List Bytes} (htrail : Trail start a history)
    (h : a.Replayed history) (hstep : Step a b)
    (hsubmitted : b.ledger.submitted = a.ledger.submitted ++ [d])
    (hwaiting : b.router.outbox.buffer.records <:+ b.ledger.submitted)
    (hwritten : b.appends = a.appends ++ bodies) (hbodies : ∀ body ∈ bodies, d.encode = .ok body) :
    ∃ more, Trail start b (history ++ more) ∧ b.Replayed (history ++ more) := by
  refine ⟨_, htrail.handedOver hstep hsubmitted hwritten, h.grow ?_ hwaiting ?_⟩
  · rw [hsubmitted]
    exact List.prefix_append _ _
  · intro n body hmem
    obtain ⟨body, hbody, ⟨⟩⟩ := List.mem_map.1 hmem
    exact ⟨d, by rw [hsubmitted, List.getElem?_concat_length], hbodies _ hbody⟩

/-- What is written for the record at the front of what waits is its body. -/
theorem Trail.sendOldest {d : Delivery} {rest : List Delivery} {bodies : List Bytes}
    (htrail : Trail start a history) (h : a.Replayed history) (hstep : Step a b)
    (hrecords : a.router.outbox.buffer.records = d :: rest)
    (hsubmitted : b.ledger.submitted = a.ledger.submitted)
    (hwaiting : b.router.outbox.buffer.records <:+ a.router.outbox.buffer.records)
    (hwritten : b.appends = a.appends ++ bodies) (hbodies : ∀ body ∈ bodies, d.encode = .ok body) :
    ∃ more, Trail start b (history ++ more) ∧ b.Replayed (history ++ more) := by
  have hkept : a.ledger.submitted <+: b.ledger.submitted := hsubmitted ▸ List.prefix_refl _
  refine ⟨_, htrail.workedOff hstep hsubmitted hwritten, h.grow hkept ?_ ?_⟩
  · rw [hsubmitted]
    exact hwaiting.trans h.waiting
  · intro n body hmem
    obtain ⟨body, hbody, ⟨⟩⟩ := List.mem_map.1 hmem
    exact ⟨d, by rw [hsubmitted]; exact h.submitted_oldest hrecords, hbodies _ hbody⟩

/-- A step that hands nothing over and writes no request to append. -/
theorem Trail.idle (htrail : Trail start a history) (h : a.Replayed history) (hstep : Step a b)
    (hledger : b.ledger = a.ledger)
    (hwaiting : b.router.outbox.buffer.records = a.router.outbox.buffer.records)
    (hwritten : b.appends = a.appends) :
    ∃ more, Trail start b (history ++ more) ∧ b.Replayed (history ++ more) := by
  have hempty : b.appends = a.appends ++ [] := by rw [hwritten, List.append_nil]
  have hkept : a.ledger.submitted <+: b.ledger.submitted := hledger ▸ List.prefix_refl _
  refine ⟨_, htrail.workedOff hstep (by rw [hledger]) hempty, h.grow hkept ?_ nofun⟩
  rw [hledger, hwaiting]
  exact h.waiting

theorem Trail.step (hstep : Step a b) (htrail : Trail start a history) (h : a.Replayed history) :
    ∃ more, Trail start b (history ++ more) ∧ b.Replayed (history ++ more) := by
  have hstep' := hstep
  have hnone {d : Delivery} (hw : a.router.outbox.waits = false) :
      a.router.outbox.buffer.records <:+ a.ledger.submitted ++ [d] := by
    rw [records_of_not_waits hw]
    exact List.nil_suffix
  cases hstep with
  | waiting d _ =>
    have hnothing : a.appends = a.appends ++ [] := (List.append_nil _).symm
    exact htrail.handOver h hstep' rfl (RetryBuffer.suffix_enqueue d h.waiting) hnothing nofun
  | accepted d hw happ =>
    obtain ⟨bodies, hwritten, hbodies⟩ := appends_of_append happ
    exact htrail.handOver h hstep' rfl (hnone hw) hwritten hbodies
  | refused d hw happ he =>
    obtain ⟨bodies, hwritten, hbodies⟩ := appends_of_append happ
    exact htrail.handOver h hstep' rfl (hnone hw) hwritten hbodies
  | failed d hw happ he =>
    obtain ⟨bodies, hwritten, hbodies⟩ := appends_of_append happ
    exact htrail.handOver h hstep' rfl (RetryBuffer.suffix_enqueue d h.waiting) hwritten hbodies
  | sent hrec happ =>
    obtain ⟨bodies, hwritten, hbodies⟩ := appends_of_append happ
    exact htrail.sendOldest h hstep' hrec rfl (by rw [hrec]; exact List.suffix_cons _ _) hwritten
      hbodies
  | rejected hrec happ he =>
    obtain ⟨bodies, hwritten, hbodies⟩ := appends_of_append happ
    exact htrail.sendOldest h hstep' hrec rfl (by rw [hrec]; exact List.suffix_cons _ _) hwritten
      hbodies
  | stopped hrec happ he =>
    obtain ⟨bodies, hwritten, hbodies⟩ := appends_of_append happ
    exact htrail.sendOldest h hstep' hrec rfl (List.suffix_refl _) hwritten hbodies
  | connect =>
    exact htrail.idle h hstep' rfl rfl (Client.appends_connect _)
  | resolve => exact ⟨[], by rw [List.append_nil]; exact ⟨htrail.resolved, h.waiting, h.bodies⟩⟩
  | close => exact htrail.idle h hstep' rfl rfl (Client.appends_close _)
  | report | think | publish | adopt => exact htrail.idle h hstep' rfl rfl rfl

theorem Trail.steps (hsteps : Steps a b) (htrail : Trail start a history)
    (h : a.Replayed history) :
    ∃ more, Trail start b (history ++ more) ∧ b.Replayed (history ++ more) := by
  induction hsteps with
  | refl => exact ⟨[], by rw [List.append_nil]; exact ⟨htrail, h⟩⟩
  | tail _ hlast ih =>
    obtain ⟨first, htrail, h⟩ := ih
    obtain ⟨last, htrail, h⟩ := htrail.step hlast h
    exact ⟨first ++ last, by rw [← List.append_assoc]; exact ⟨htrail, h⟩⟩

/-- Every run has a history, and in it each record is written with its own body. -/
theorem Trail.exists_run [RegistryPublisher ρ] (change : κ → ν → ν) (actions : List (Action κ))
    (htrail : Trail start a history) (h : a.Replayed history) :
    ∃ more, Trail start (a.run (Tapped.meanwhile change) actions) (history ++ more) ∧
      (a.run (Tapped.meanwhile change) actions).Replayed (history ++ more) := by
  induction actions generalizing a history with
  | nil => exact ⟨[], by rw [List.append_nil]; exact ⟨htrail, h⟩⟩
  | cons action rest ih =>
    obtain ⟨first, htrail, h⟩ : ∃ more,
        Trail start (a.act (Tapped.meanwhile change) action) (history ++ more) ∧
          (a.act (Tapped.meanwhile change) action).Replayed (history ++ more) := by
      rcases steps_act (Tapped.meanwhile change) a action with hsteps | ⟨k, hact⟩
      · exact htrail.steps hsteps h
      · rw [hact]
        refine ⟨[], ?_⟩
        rw [List.append_nil]
        exact ⟨htrail.outside (change k a.router.outbox.store.net.net), h.waiting, h.bodies⟩
    obtain ⟨last, htrail, h⟩ := ih htrail h
    exact ⟨first ++ last, by rw [← List.append_assoc]; exact ⟨htrail, h⟩⟩

/-- Where the resolver writes none, the history has all requests to append. -/
theorem Trail.complete (h : Trail start a history)
    (hresolver : start.router.resolver.AppendsNothing) :
    a.router.resolver = start.router.resolver ∧
      a.appends = start.appends ++ history.map Prod.snd := by
  have hgrow {a b : Audited (Client (Tapped ν)) ρ} {history : List (Nat × Bytes)} {n : Nat}
      {bodies : List Bytes} (hstep : Step a b) (hwritten : b.appends = a.appends ++ bodies)
      (ih : a.router.resolver = start.router.resolver ∧
        a.appends = start.appends ++ history.map Prod.snd) :
      b.router.resolver = start.router.resolver ∧
        b.appends = start.appends ++ (history ++ bodies.map (n, ·)).map Prod.snd := by
    refine ⟨hstep.alike.resolver.trans ih.1, ?_⟩
    have hlabels : (bodies.map (n, ·)).map Prod.snd = bodies := by simp [Function.comp_def]
    rw [hwritten, ih.2, List.append_assoc, List.map_append, hlabels]
  induction h with
  | start => exact ⟨rfl, (List.append_nil _).symm⟩
  | handedOver _ hstep _ hwritten ih => exact hgrow hstep hwritten ih
  | workedOff _ hstep _ hwritten ih => exact hgrow hstep hwritten ih
  | @resolved a _ _ ih =>
    refine ⟨ih.1, Eq.trans ?_ ih.2⟩
    rw [← ih.1] at hresolver
    exact hresolver a.router.lineage a.router.outbox.store
  | outside _ _ ih => exact ih

/-- A run from the beginning has a history. -/
theorem exists_history [RegistryPublisher ρ] (change : κ → ν → ν)
    (start : Router (Client (Tapped ν)) ρ) (hempty : start.outbox.buffer.records = [])
    (hquiet : start.outbox.store.net.appends = []) (actions : List (Action κ)) :
    let a := run (Tapped.meanwhile change) ⟨start, {}⟩ actions
    ∃ history, Trail ⟨start, {}⟩ a history ∧ a.Replayed history ∧
      (start.resolver.AppendsNothing → history.map Prod.snd = a.appends) := by
  intro a
  have hfresh : Trail (⟨start, {}⟩ : Audited _ ρ) ⟨start, {}⟩ [] := .start
  have hreplayed : (⟨start, {}⟩ : Audited _ ρ).Replayed [] := by
    refine ⟨?_, nofun⟩
    simp only [hempty, List.suffix_refl]
  obtain ⟨history, htrail, hreplayed⟩ := hfresh.exists_run change actions hreplayed
  rw [List.nil_append] at htrail hreplayed
  refine ⟨history, htrail, hreplayed, fun hresolver => ?_⟩
  have hcomplete := (htrail.complete hresolver).2
  rw [show appends (⟨start, {}⟩ : Audited _ ρ) = [] from hquiet, List.nil_append] at hcomplete
  exact hcomplete.symm

end Audited

/-- Over any network a run has a history, in which each request to append has the number of the
record that it was written for. Its body is the encoding of that record as it was submitted: for
its context, behind the head, with its type and version and the octets that its payload had. So
all requests for one record have the same body, whether it was sent at once or had to wait. -/
theorem replays_identical {ν ρ κ : Type} [Network ν] [RegistryPublisher ρ] (change : κ → ν → ν)
    (client : ClientConfig) (net : ν) (resolver : Resolver (Client (Tapped ν))) (l : Lineage)
    (config : RouterConfig) (identity : Identity) (known : List String) (publisher : Option ρ)
    (actions : List (Action κ)) :
    let start : Router (Client (Tapped ν)) ρ :=
      .create { config := client, net := { net } } l config identity known resolver publisher
    let a := Audited.run (Tapped.meanwhile change) ⟨start, {}⟩ actions
    a.router = start.run (Tapped.meanwhile change) actions ∧
      ∃ history, Audited.Trail ⟨start, {}⟩ a history ∧
        (resolver.AppendsNothing → history.map Prod.snd = a.appends) ∧
        (∀ n body, (n, body) ∈ history → ∃ context record,
          a.ledger.submitted[n]? = some (Record.into context record) ∧
          (AppendRequest.ofPayload context 0 record.type.id record.type.version
            record.payload.serialize).encode = .ok body) ∧
        ∀ n body body', (n, body) ∈ history → (n, body') ∈ history → body = body' := by
  intro start a
  obtain ⟨history, htrail, hreplayed, hcomplete⟩ :=
    Audited.exists_history change start rfl rfl actions
  refine ⟨Audited.router_run _ _ _, history, htrail, hcomplete, fun n body hmem => ?_,
    fun n body body' hmem hmem' => ?_⟩
  · obtain ⟨d, hd, hbody⟩ := hreplayed.bodies n body hmem
    have hempty : (⟨start, {}⟩ : Audited _ ρ).ledger.Recorded := nofun
    obtain ⟨context, record, rfl⟩ := Audited.recorded_run (Tapped.meanwhile change) actions hempty d
      (List.mem_of_getElem? hd)
    exact ⟨context, record, hd, hbody⟩
  · obtain ⟨d, hd, hbody⟩ := hreplayed.bodies n body hmem
    obtain ⟨d', hd', hbody'⟩ := hreplayed.bodies n body' hmem'
    rw [hd, Option.some.injEq] at hd'
    rw [← hd', hbody] at hbody'
    exact Except.ok.inj hbody'

/-- An append that got no answer is written again on the next connection, with the same body. -/
theorem lost_append_replayed :
    let start : Router (Client (Tapped LossyPeer)) CountingPublisher :=
      .create {
        config := ⟨"localhost", 9009, .ofSeconds 5, .ofSeconds 5, "recorder"⟩
        net := { net := { moves := fun n => Sample.moves.getD n {} } } }
        Sample.lineage Sample.config Sample.identity [] (.fixed ⟨1, 2, none, none⟩) Sample.publisher
    let a := Audited.run (Tapped.meanwhile fun (_ : Unit) p => p) ⟨start, {}⟩
      [.setUp 1, .event Sample.tool]
    ∃ history, Audited.Trail ⟨start, {}⟩ a history ∧ history.map Prod.snd = a.appends ∧
      a.appends.length = 3 ∧ a.appends[0]? = a.appends[1]? := by
  obtain ⟨_, history, htrail, hcomplete, _⟩ := replays_identical (fun (_ : Unit) p => p)
    ⟨"localhost", 9009, .ofSeconds 5, .ofSeconds 5, "recorder"⟩
    ({ moves := fun n => Sample.moves.getD n {} } : LossyPeer) (.fixed ⟨1, 2, none, none⟩)
    Sample.lineage Sample.config Sample.identity [] Sample.publisher
    [.setUp 1, .event Sample.tool]
  exact ⟨history, htrail, hcomplete (Resolver.fixed_appendsNothing _), by decide +kernel,
    by decide +kernel⟩

end SessionRecorder
