import SessionRecorder.Proofs.Blocked
import SessionRecorder.Proofs.EventPayloads
import SessionRecorder.Proofs.Replays

/-!
When a store takes two events for one. The key of an append is made of its context and its
payload, so equal content has equal keys: those of a repeated append, as it is meant, and those
of two events with one name and the same recorded data within a millisecond
(`repeated_event_shares_key`). Main statement: `events_share_key_iff`.
-/

namespace SessionRecorder

open Digest Wire

namespace Delivery

variable {d e : Delivery} {body body' : Bytes}

theorem keyOf_of_encode (h : d.encode = .ok body) :
    LossyPeer.keyOf body = (sha256 d.keyInput).octets := by
  rw [← Client.body_of_encode h, keyOf_requestBody]

theorem length_of_encode (h : d.encode = .ok body) : d.payload.length < 2 ^ 32 := by
  unfold encode AppendRequest.encode AppendRequest.ofPayload at h
  simp only at h
  split at h
  · cases h
  · split at h
    · cases h
    · omega

/-- In one context, requests have the same key just if their payloads are the same. -/
theorem keyOf_eq_iff (h : d.encode = .ok body) (h' : e.encode = .ok body')
    (hcontext : d.context = e.context) (hpayloads : NoCollision blake3 [d.payload, e.payload])
    (hkeys : NoCollision sha256 [d.keyInput, e.keyInput]) :
    LossyPeer.keyOf body = LossyPeer.keyOf body' ↔ d.payload = e.payload := by
  rw [keyOf_of_encode h, keyOf_of_encode h']
  constructor
  · intro hkey
    have hinput := hkeys _ (by simp) _ (by simp) (Hash.ext hkey)
    exact hpayloads _ (by simp) _ (by simp) (keyInput_injective hinput).2
  · intro hpayload
    rw [keyInput, keyInput, hcontext, hpayload]

end Delivery

namespace Audited

variable {σ ρ κ : Type} [ContextStore σ] [RegistryPublisher ρ] {a : Audited σ ρ}

/-- What was submitted stays so, whatever happens. -/
theorem submitted_run (change : κ → σ → σ) (actions : List (Action κ)) (a : Audited σ ρ) :
    a.ledger.submitted <+: (a.run change actions).ledger.submitted := by
  refine run_keeps (Q := fun x => a.ledger.submitted <+: x.ledger.submitted) ?_ ?_
    (List.prefix_refl _) actions
  · exact fun hstep hx => hx.trans hstep.submitted
  · exact fun _ hx => hx

theorem alike_run (change : κ → σ → σ) (actions : List (Action κ)) (a : Audited σ ρ) :
    a.router.Alike (a.run change actions).router := by
  refine run_keeps (Q := fun x => a.router.Alike x.router) ?_ ?_ ⟨rfl, rfl, rfl, rfl⟩ actions
  · exact fun hstep hx => hx.trans hstep.alike
  · exact fun _ hx => ⟨hx.lineage, hx.config, hx.identity, hx.resolver⟩

/-- Whether a call records its event. -/
def Records (c : Call) (a : Audited σ ρ) : Prop :=
  (a.router.pipeline.step c.readings.steady c.event c.data).1 ≠ .dropped

instance (c : Call) (a : Audited σ ρ) : Decidable (a.Records c) :=
  inferInstanceAs (Decidable (_ ≠ _))

/-- The record of an event is the next one that is submitted. -/
theorem Records.submitted {contexts : SessionContexts} {c : Call} (h : a.Records c)
    (hcontexts : a.router.contexts = some contexts) (change : κ → σ → σ)
    (after : List (Action κ)) :
    ((a.handle c).run change after).ledger.submitted[a.ledger.submitted.length]? =
      some ((Record.ofEvent a.router.config.shape c.event c.data a.router.lineage
        c.readings.event).into contexts.events) := by
  obtain ⟨rest, hrest⟩ := submitted_run change after (a.handle c)
  rw [submitted_handle c hcontexts] at hrest
  unfold Records at h
  cases hdecision : (a.router.pipeline.step c.readings.steady c.event c.data).1 with
  | dropped => exact absurd hdecision h
  | recorded finished =>
    rw [hdecision, Decision.deliveries, List.append_assoc] at hrest
    rw [← hrest, List.getElem?_append_right (Nat.le_refl _), Nat.sub_self]
    rfl

end Audited

/-- Once there are contexts, let two calls record their events. Where digests do not collide, a
request for the one and a request for the other have the same key just if the events have the
same name, the same recorded data and the same time in milliseconds. -/
theorem events_share_key_iff {ν ρ κ : Type} [Network ν] [RegistryPublisher ρ] (change : κ → ν → ν)
    (client : ClientConfig) (net : ν) (resolver : Resolver (Client (Tapped ν))) (l : Lineage)
    (config : RouterConfig) (identity : Identity) (known : List String) (publisher : Option ρ)
    (before between after : List (Action κ)) (c d : Call) (contexts : SessionContexts) :
    let start : Router (Client (Tapped ν)) ρ :=
      .create { config := client, net := { net } } l config identity known resolver publisher
    let run := Audited.run (Tapped.meanwhile change) ⟨start, {}⟩
    let first := run before
    let second := run (before ++ .event c :: between)
    let a := run (before ++ .event c :: between ++ .event d :: after)
    let record (x : Call) := (Record.ofEvent config.shape x.event x.data l x.readings.event).into
      contexts.events
    first.router.contexts = some contexts → first.Records c → second.Records d →
      NoCollision blake3 [(record c).payload, (record d).payload] →
      NoCollision sha256 [(record c).keyInput, (record d).keyInput] →
      a.ledger.submitted[first.ledger.submitted.length]? = some (record c) ∧
        a.ledger.submitted[second.ledger.submitted.length]? = some (record d) ∧
        first.ledger.submitted.length < second.ledger.submitted.length ∧
        ∃ history, Audited.Trail ⟨start, {}⟩ a history ∧
          (resolver.AppendsNothing → history.map Prod.snd = a.appends) ∧
          ∀ body body', (first.ledger.submitted.length, body) ∈ history →
            (second.ledger.submitted.length, body') ∈ history →
            (LossyPeer.keyOf body = LossyPeer.keyOf body' ↔ c.event = d.event ∧
              Envelope.eventData c.data = Envelope.eventData d.data ∧
              c.readings.event = d.readings.event) := by
  intro start run first second a record hcontexts hfirst hsecond hpayloads hkeys
  have hsplit : second = (first.handle c).run (Tapped.meanwhile change) between :=
    Audited.run_append _ _ _ _
  have hwhole : a = (second.handle d).run (Tapped.meanwhile change) after :=
    Audited.run_append _ _ _ _
  have hcontinued : a = (first.handle c).run (Tapped.meanwhile change)
      (between ++ .event d :: after) := by
    rw [hwhole, hsplit, Audited.run_append]
    rfl
  have hopened : second.router.contexts = some contexts := by
    rw [hsplit]
    exact Audited.contexts_run _ ((Audited.steps_handle c first).contexts hcontexts) between
  have hrecord {x : Call} (actions : List (Action κ)) :
      (Record.ofEvent (run actions).router.config.shape x.event x.data (run actions).router.lineage
        x.readings.event).into contexts.events = record x := by
    have halike := Audited.alike_run (Tapped.meanwhile change) actions ⟨start, {}⟩
    rw [halike.config, halike.lineage]
    rfl
  have hc : a.ledger.submitted[first.ledger.submitted.length]? = some (record c) := by
    rw [hcontinued, hfirst.submitted hcontexts, hrecord]
  have hd : a.ledger.submitted[second.ledger.submitted.length]? = some (record d) := by
    rw [hwhole, hsecond.submitted hopened, hrecord]
  have hlater : first.ledger.submitted.length < second.ledger.submitted.length := by
    have hsubmitted := hfirst.submitted hcontexts (Tapped.meanwhile change) between
    rw [← hsplit] at hsubmitted
    exact (List.getElem?_eq_some_iff.1 hsubmitted).1
  obtain ⟨history, htrail, hreplayed, hcomplete⟩ := Audited.exists_history change start rfl rfl
    (before ++ .event c :: between ++ .event d :: after)
  refine ⟨hc, hd, hlater, history, htrail, hcomplete, fun body body' hmem hmem' => ?_⟩
  obtain ⟨x, hx, hbody⟩ := hreplayed.bodies _ _ hmem
  obtain rfl : record c = x := Option.some.inj (hc.symm.trans hx)
  obtain ⟨y, hy, hbody'⟩ := hreplayed.bodies _ _ hmem'
  obtain rfl : record d = y := Option.some.inj (hd.symm.trans hy)
  rw [Delivery.keyOf_eq_iff hbody hbody' rfl hpayloads hkeys]
  exact Record.serialize_ofEvent_iff (Delivery.length_of_encode hbody)

namespace Sample

/-- A session over a tapped network whose peer answers every request. -/
def tapped : Router (Client (Tapped ScriptedPeer)) CountingPublisher :=
  .create { config := Client.Sample.config, net := { net := obliging } } lineage config identity []
    .createNew publisher

/-- The same use of the tool, a millisecond later. -/
def toolAgain : Call := call 3 "tool:pre" [("tool_name", .string "grep")]

end Sample

/-- Two events that differ in their time alone have keys of their own. -/
theorem later_event_has_own_key :
    let a := Audited.run (Tapped.meanwhile fun (_ : Unit) net => net) ⟨Sample.tapped, {}⟩
      [.setUp 1, .event Sample.tool, .event Sample.toolAgain]
    (a.appends.map LossyPeer.keyOf).length = 4 ∧ (a.appends.map LossyPeer.keyOf).Nodup ∧
      ∃ n m history, n < m ∧ Audited.Trail ⟨Sample.tapped, {}⟩ a history ∧
        history.map Prod.snd = a.appends ∧
        ∀ body body', (n, body) ∈ history → (m, body') ∈ history →
          LossyPeer.keyOf body ≠ LossyPeer.keyOf body' := by
  obtain ⟨_, _, hlater, history, htrail, hcomplete, hkeys⟩ := events_share_key_iff
    (fun (_ : Unit) net => net) Client.Sample.config Sample.obliging .createNew Sample.lineage
    Sample.config Sample.identity [] Sample.publisher [.setUp 1] [] [] Sample.tool Sample.toolAgain
    ⟨1, 2, none, none⟩ (by decide +kernel) (by decide +kernel) (by decide +kernel)
    (noCollision_of_nodup (by decide +kernel)) (noCollision_of_nodup (by decide +kernel))
  refine ⟨by decide +kernel, by decide +kernel, _, _, history, hlater, htrail,
    hcomplete Resolver.createNew_appendsNothing, ?_⟩
  intro body body' hmem hmem' hkey
  have hsame := (hkeys body body' hmem hmem').1 hkey
  exact absurd hsame.2.2 (by decide)

/-- An event that comes twice within a millisecond is recorded twice, as two records of the
context of all events, and both are stored; but their requests have one key. -/
theorem repeated_event_shares_key :
    let a := Audited.run (Tapped.meanwhile fun (_ : Unit) net => net) ⟨Sample.tapped, {}⟩
      [.setUp 1, .event Sample.tool, .event Sample.tool]
    let d := (Record.ofEvent .envelope Sample.tool.event Sample.tool.data Sample.lineage
      Sample.tool.readings.event).into 2
    a.router.contexts = some ⟨1, 2, none, none⟩ ∧
      a.ledger.submitted.drop 2 = [d, d] ∧ a.ledger.acknowledged.drop 2 = [d, d] ∧
      a.appends.length = 4 ∧
      (a.appends.map LossyPeer.keyOf)[2]? = (a.appends.map LossyPeer.keyOf)[3]? := by
  decide +kernel

end SessionRecorder
