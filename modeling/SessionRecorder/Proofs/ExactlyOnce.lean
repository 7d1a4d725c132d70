import Mathlib.Data.List.Nodup
import SessionRecorder.Proofs.Conservation
import SessionRecorder.Proofs.LossyClient

/-!
Over a lossy peer every record comes once and in order. The peer keeps the records that
it has acknowledged, and perhaps the oldest one that waits; copies that are still on
their way are of these. Main statement: `persisted_in_order`.
-/

namespace SessionRecorder

open Bytes Digest Wire

namespace LossyPeer

/-- The peer keeps what it has acknowledged, and perhaps the oldest body that waits. -/
structure Holds (acknowledged waiting : List Bytes) (p : LossyPeer) : Prop where
  kept : p.persisted = acknowledged ∨ ∃ body ∈ waiting.head?, p.persisted = acknowledged ++ [body]
  inFlight : ∀ body ∈ p.inFlight, body ∈ acknowledged ++ waiting.head?.toList

variable {acknowledged waiting sent : List Bytes} {body : Bytes} {p q : LossyPeer}

theorem Holds.change (hsent : ∀ b ∈ sent, b ∈ acknowledged ++ waiting.head?.toList)
    (hstep : Change sent p q) (h : p.Holds acknowledged waiting) :
    q.Holds acknowledged waiting := by
  obtain ⟨hkept, hflight⟩ := h
  cases hstep with
  | other hp hf =>
    rw [← hp] at hkept
    rw [← hf] at hflight
    exact ⟨hkept, hflight⟩
  | send hbody =>
    refine ⟨hkept, ?_⟩
    intro b hb
    rcases List.mem_append.1 hb with hb | hb
    · exact hflight b hb
    · rw [List.mem_singleton.1 hb]
      exact hsent _ hbody
  | @process body hbody =>
    refine ⟨?_, by simpa using hflight⟩
    rcases persist_cases body p with ⟨_, hp⟩ | ⟨hnew, hp⟩ <;> rw [hp]
    · exact hkept
    · -- A body that is kept now was not kept before, so it is the oldest that waits.
      have hnot : body ∉ p.persisted := fun hmem => hnew ⟨body, hmem, rfl⟩
      have hmem := hflight body hbody
      rcases hkept with hkept | ⟨oldest, holdest, hkept⟩ <;> rw [hkept] at hnot
      · rw [List.mem_append, Option.mem_toList] at hmem
        rcases hmem with hmem | hmem
        · exact absurd hmem hnot
        · exact .inr ⟨body, hmem, by rw [hkept]⟩
      · rw [holdest] at hmem
        exact absurd hmem hnot

theorem Holds.changes (hsent : ∀ b ∈ sent, b ∈ acknowledged ++ waiting.head?.toList)
    (hsteps : Changes sent p q) (h : p.Holds acknowledged waiting) :
    q.Holds acknowledged waiting := by
  induction hsteps with
  | refl => exact h
  | tail _ hstep ih => exact ih.change hsent hstep

/-- One more body waits. -/
theorem Holds.submit (body : Bytes) (h : p.Holds acknowledged waiting) :
    p.Holds acknowledged (waiting ++ [body]) := by
  obtain ⟨hkept, hflight⟩ := h
  cases waiting with
  | nil =>
    refine ⟨.inl ?_, ?_⟩
    · rcases hkept with hkept | ⟨b, hb, _⟩
      · exact hkept
      · cases hb
    · intro b hb
      have hb := hflight b hb
      rw [List.head?_nil, Option.toList_none, List.append_nil] at hb
      exact List.mem_append_left _ hb
  | cons oldest rest => exact ⟨hkept, hflight⟩

/-- The oldest body that waits is acknowledged, and so it is kept. -/
theorem Holds.acknowledge (hnew : ∀ b ∈ acknowledged, keyOf b ≠ keyOf body) (hseen : Seen body p)
    (h : p.Holds acknowledged (body :: waiting)) : p.Holds (acknowledged ++ [body]) waiting := by
  obtain ⟨hkept, hflight⟩ := h
  refine ⟨.inl ?_, ?_⟩
  · rcases hkept with hkept | ⟨b, hb, hkept⟩
    · obtain ⟨b, hb, hkey⟩ := hseen
      rw [hkept] at hb
      exact absurd hkey (hnew b hb)
    · cases hb
      exact hkept
  · intro b hb
    exact List.mem_append_left _ (hflight b hb)

theorem Holds.isPrefix (h : p.Holds acknowledged waiting) :
    p.persisted <+: acknowledged ++ waiting := by
  rcases h.kept with hkept | ⟨body, hbody, hkept⟩ <;> rw [hkept]
  · exact List.prefix_append _ _
  · obtain ⟨rest, rfl⟩ := List.head?_eq_some_iff.1 hbody
    exact ⟨rest, by simp⟩

end LossyPeer

/-- A resolver that appends nothing by itself. -/
def Resolver.AsksOnly (resolver : Resolver (Client LossyPeer)) : Prop :=
  ∀ l s, Relation.ReflTransGen Client.Asked s (resolver l s).2.2

namespace Resolver

theorem createNew_asksOnly : AsksOnly createNew := by
  intro l s
  unfold createNew
  have hfirst := Client.Asked.create (s := s) 0
  rcases h : ContextStore.create 0 s with ⟨e | head, next⟩ <;> rw [h] at hfirst
  · exact .single hfirst
  · have hsecond := Client.Asked.create (s := next) 0
    rcases h' : ContextStore.create 0 next with ⟨e | head, last⟩ <;> rw [h'] at hsecond <;>
      simp only [h'] <;>
      exact .tail (.single hfirst) hsecond

theorem forkTurns_asksOnly (base : UInt64) : AsksOnly (forkTurns base) := by
  intro l s
  unfold forkTurns
  have hfork := Client.Asked.fork (s := s) base
  rcases h : ContextStore.fork base s with ⟨e | head, next⟩ <;> rw [h] at hfork
  · exact .single hfork
  · exact .head hfork (createNew_asksOnly l next)

theorem fixed_asksOnly (contexts : SessionContexts) : AsksOnly (fixed contexts) :=
  fun _ _ => .refl

theorem failing_asksOnly (e : StoreError) : AsksOnly (failing e) :=
  fun _ _ => .refl

end Resolver

/-- The octets whose SHA-256 digest is the key of a delivery. -/
def Delivery.keyInput (d : Delivery) : Bytes :=
  ofNatLE 8 d.context.toNat ++ 0x3A :: (blake3 d.payload).octets

/-- A digest tells these inputs apart. -/
def NoCollision (digest : Bytes → Hash) (inputs : List Bytes) : Prop :=
  ∀ x ∈ inputs, ∀ y ∈ inputs, digest x = digest y → x = y

theorem noCollision_of_nodup {digest : Bytes → Hash} {inputs : List Bytes}
    (h : (inputs.map digest).Nodup) : NoCollision digest inputs :=
  fun _ hx _ hy hxy => List.inj_on_of_nodup_map h hx hy hxy

namespace Delivery

theorem keyOf_requestBody (d : Delivery) :
    LossyPeer.keyOf d.requestBody = (sha256 d.keyInput).octets := by
  have hkey : (sha256 d.keyInput).octets.length = digestSize := (sha256 d.keyInput).length_octets
  obtain ⟨front, hfront⟩ : ∃ front, d.requestBody = front ++ (sha256 d.keyInput).octets :=
    ⟨_, rfl⟩
  rw [LossyPeer.keyOf, hfront, List.length_append, hkey, Nat.add_sub_cancel, List.drop_left]

theorem keyInput_injective {d e : Delivery} (h : d.keyInput = e.keyInput) :
    d.context = e.context ∧ blake3 d.payload = blake3 e.payload := by
  obtain ⟨hcontext, hrest⟩ := List.append_inj h (by simp)
  have hn : d.context.toNat = e.context.toNat := by
    have hread := congrArg toNatLE hcontext
    have hd := d.context.toNat_lt
    have he := e.context.toNat_lt
    rw [toNatLE_ofNatLE, toNatLE_ofNatLE] at hread
    omega
  exact ⟨UInt64.toNat_inj.1 hn, Hash.ext (List.cons.inj hrest).2⟩

/-- The keys of deliveries differ. -/
def Distinct (ds : List Delivery) : Prop := (ds.map fun d => LossyPeer.keyOf d.requestBody).Nodup

/-- Where digests do not collide, deliveries with other contexts or payloads have other keys. -/
theorem distinct_of_noCollision {ds : List Delivery}
    (hpayloads : NoCollision blake3 (ds.map (·.payload)))
    (hkeys : NoCollision sha256 (ds.map (·.keyInput)))
    (hnodup : (ds.map fun d => (d.context, d.payload)).Nodup) : Distinct ds := by
  rw [List.Nodup, List.pairwise_map] at hnodup
  rw [Distinct, List.Nodup, List.pairwise_map]
  refine hnodup.imp_of_mem ?_
  intro d e hd he hne hkey
  rw [keyOf_requestBody, keyOf_requestBody] at hkey
  have hinput := hkeys _ (List.mem_map_of_mem hd) _ (List.mem_map_of_mem he) (Hash.ext hkey)
  obtain ⟨hcontext, hhash⟩ := keyInput_injective hinput
  have hpayload := hpayloads _ (List.mem_map_of_mem hd) _ (List.mem_map_of_mem he) hhash
  exact hne (Prod.ext hcontext hpayload)

theorem Distinct.front {ds : List Delivery} {d : Delivery} (h : Distinct (ds ++ [d])) :
    Distinct ds := by
  rw [Distinct, List.map_append] at h
  exact (List.nodup_append.1 h).1

theorem Distinct.bodies {ds : List Delivery} (h : Distinct ds) :
    (ds.map (·.requestBody)).Nodup := by
  rw [Distinct, List.Nodup, List.pairwise_map] at h
  rw [List.Nodup, List.pairwise_map]
  refine h.imp ?_
  intro d e hne hbody
  exact hne (congrArg LossyPeer.keyOf hbody)

/-- The key of a delivery is none of those before it. -/
theorem Distinct.new {ds rest : List Delivery} {d : Delivery} (h : Distinct (ds ++ d :: rest)) :
    ∀ body ∈ ds.map (·.requestBody), LossyPeer.keyOf body ≠ LossyPeer.keyOf d.requestBody := by
  rw [Distinct, List.map_append, List.nodup_append] at h
  intro body hbody
  obtain ⟨e, he, rfl⟩ := List.mem_map.1 hbody
  exact h.2.2 _ (List.mem_map_of_mem he) _ (List.mem_map_of_mem List.mem_cons_self)

end Delivery

namespace Audited

variable {ρ : Type} {a b : Audited (Client LossyPeer) ρ}

/-- As long as no record was let go, those that are not acknowledged wait, and the peer
keeps the records in line. -/
structure Lined (a : Audited (Client LossyPeer) ρ) : Prop where
  resolver : a.router.resolver.AsksOnly
  idle : a.router.outbox.store.Idle
  line : a.router.outbox.buffer.overflow = 0 → Delivery.Distinct a.ledger.submitted →
    a.ledger.submitted = a.ledger.acknowledged ++ a.router.outbox.buffer.records ∧
      a.router.outbox.store.net.Holds (a.ledger.acknowledged.map (·.requestBody))
        (a.router.outbox.buffer.records.map (·.requestBody))

theorem Lined.withStore (h : a.Lined) {store : Client LossyPeer} (hidle : store.Idle)
    (hchanges : LossyPeer.Changes [] a.router.outbox.store.net store.net) :
    (a.become (a.router.withStore store)).Lined := by
  refine ⟨h.resolver, hidle, ?_⟩
  intro hlost hdistinct
  obtain ⟨hline, hholds⟩ := h.line hlost hdistinct
  exact ⟨hline, hholds.changes (fun _ hb => (by cases hb)) hchanges⟩

theorem Lined.asked (h : a.Lined) {store : Client LossyPeer}
    (hasked : Relation.ReflTransGen Client.Asked a.router.outbox.store store) :
    (a.become (a.router.withStore store)).Lined := by
  have hspec : store.Idle ∧ LossyPeer.Changes [] a.router.outbox.store.net store.net := by
    induction hasked with
    | refl => exact ⟨h.idle, .refl⟩
    | tail _ hlast ih =>
      obtain ⟨hidle, hchanges⟩ := hlast.spec ih.1
      exact ⟨hidle, ih.2.trans hchanges⟩
  exact h.withStore hspec.1 hspec.2

/-- A record that waits is the last one in line. -/
theorem Lined.postpone (h : a.Lined) (d : Delivery) :
    Lined ⟨{ a.router with outbox := a.router.outbox.postpone d }, a.ledger.submit d⟩ := by
  refine ⟨h.resolver, h.idle, ?_⟩
  intro hlost hdistinct
  obtain ⟨hbefore, hrecords⟩ := RetryBuffer.enqueue_lossless hlost
  obtain ⟨hline, hholds⟩ := h.line hbefore hdistinct.front
  simp only [Outbox.postpone, Outbox.report, Ledger.submit, hrecords]
  refine ⟨by rw [hline, List.append_assoc], ?_⟩
  simpa using hholds.submit d.requestBody

/-- While the record at the front is appended, the peer keeps the records in line. -/
theorem holds_append {acknowledged waiting : List Bytes} {store next : Client LossyPeer}
    {d : Delivery} {result : Except StoreError ContextHead} (hidle : store.Idle)
    (happ : ContextStore.append 0 d store = (result, next))
    (hholds : store.net.Holds acknowledged (d.requestBody :: waiting)) :
    next.net.Holds acknowledged (d.requestBody :: waiting) := by
  obtain ⟨_, hchanges, _, _⟩ := Client.append_spec d hidle
  rw [show store.append 0 d = (result, next) from happ] at hchanges
  refine hholds.changes ?_ hchanges
  intro b hb
  rw [List.mem_singleton.1 hb]
  simp

/-- An append leaves the client idle. One that succeeds has been kept, and no failure is
the peer's answer. -/
theorem append_outcome {store next : Client LossyPeer} {d : Delivery}
    {result : Except StoreError ContextHead} (hidle : store.Idle)
    (happ : ContextStore.append 0 d store = (result, next)) :
    next.Idle ∧ (∀ ack, result = .ok ack → LossyPeer.Seen d.requestBody next.net) ∧
      ∀ e, result = .error e → e.isProtocol = false := by
  obtain ⟨hnext, _, hseen, herror⟩ := Client.append_spec d hidle
  rw [show store.append 0 d = (result, next) from happ] at hnext hseen herror
  exact ⟨hnext, hseen, herror⟩

theorem Lined.step (hstep : Step a b) (h : a.Lined) : b.Lined := by
  cases hstep with
  | waiting d _ => exact h.postpone d
  | accepted d hw happ =>
    have hnone := records_of_not_waits hw
    obtain ⟨hidle, hseen, _⟩ := append_outcome h.idle happ
    refine ⟨h.resolver, hidle, ?_⟩
    intro hlost hdistinct
    obtain ⟨hline, hholds⟩ := h.line hlost hdistinct.front
    rw [hnone, List.append_nil] at hline
    rw [hnone] at hholds
    have hafter := holds_append h.idle happ (hholds.submit d.requestBody)
    simp only [Ledger.submit, Ledger.acknowledge] at hdistinct ⊢
    rw [hline] at hdistinct
    constructor
    · simp only [Router.withStore, hnone, hline, List.append_nil]
    · simpa [Router.withStore, hnone] using hafter.acknowledge hdistinct.new (hseen _ rfl)
  | refused d hw happ he =>
    obtain ⟨_, _, herror⟩ := append_outcome h.idle happ
    rw [herror _ rfl] at he
    cases he
  | failed d hw happ he =>
    have hnone := records_of_not_waits hw
    obtain ⟨hidle, _, _⟩ := append_outcome h.idle happ
    refine ⟨h.resolver, hidle, ?_⟩
    intro hlost hdistinct
    obtain ⟨hbefore, hrecords⟩ := RetryBuffer.enqueue_lossless hlost
    obtain ⟨hline, hholds⟩ := h.line hbefore hdistinct.front
    rw [hnone] at hholds
    have hafter := holds_append h.idle happ (hholds.submit d.requestBody)
    simp only [Outbox.postpone, Outbox.report, Ledger.submit, hrecords]
    refine ⟨by rw [hline, List.append_assoc]; rfl, ?_⟩
    simpa [Router.withStore, hnone] using hafter
  | sent hrec happ =>
    obtain ⟨hidle, hseen, _⟩ := append_outcome h.idle happ
    refine ⟨h.resolver, hidle, ?_⟩
    intro hlost hdistinct
    obtain ⟨hline, hholds⟩ := h.line hlost hdistinct
    rw [hrec] at hline hholds
    have hafter := holds_append h.idle happ hholds
    simp only [Ledger.acknowledge] at hdistinct ⊢
    rw [hline] at hdistinct
    constructor
    · simp only [shift, hline, List.append_assoc, List.singleton_append]
    · simpa [shift] using hafter.acknowledge hdistinct.new (hseen _ rfl)
  | rejected hrec happ he =>
    obtain ⟨_, _, herror⟩ := append_outcome h.idle happ
    rw [herror _ rfl] at he
    cases he
  | stopped hrec happ he =>
    obtain ⟨hidle, _, _⟩ := append_outcome h.idle happ
    refine ⟨h.resolver, hidle, ?_⟩
    intro hlost hdistinct
    obtain ⟨hline, hholds⟩ := h.line hlost hdistinct
    refine ⟨hline, ?_⟩
    rw [hrec] at hholds
    have hafter := holds_append h.idle happ hholds
    simpa [become, Router.withStore, hrec] using hafter
  | connect => exact h.asked (.single .connect)
  | resolve => exact h.asked (h.resolver _ _)
  | close => exact h.asked (.single .close)
  | report | think | publish | adopt => exact ⟨h.resolver, h.idle, h.line⟩

end Audited

/-- Meanwhile the peer processes bodies that are on their way, by their places. -/
def Client.meanwhile (places : List Nat) (s : Client LossyPeer) : Client LossyPeer :=
  { s with net := s.net.process places }

/-- The bodies that a lossy peer keeps are those of submitted records in the order of
their submission, from the first one on, each once. It keeps every record whose append
was acknowledged, and the others still wait. -/
theorem persisted_in_order {ρ : Type} [RegistryPublisher ρ] (moves : Nat → LossyPeer.Move)
    (client : ClientConfig) (resolver : Resolver (Client LossyPeer))
    (hresolver : resolver.AsksOnly) (l : Lineage) (config : RouterConfig) (identity : Identity)
    (known : List String) (publisher : Option ρ) (actions : List (Action (List Nat))) :
    let start : Router (Client LossyPeer) ρ :=
      .create { config := client, net := { moves } } l config identity known resolver publisher
    let a := Audited.run Client.meanwhile ⟨start, {}⟩ actions
    let submitted := a.ledger.submitted
    let persisted := a.router.outbox.store.net.persisted
    NoCollision blake3 (submitted.map (·.payload)) →
      NoCollision sha256 (submitted.map (·.keyInput)) →
      (submitted.map fun d => (d.context, d.payload)).Nodup →
      a.router.outbox.buffer.overflow = 0 →
      a.router = start.run Client.meanwhile actions ∧
        persisted <+: submitted.map (·.requestBody) ∧ persisted.Nodup ∧
        (∀ d ∈ a.ledger.acknowledged, d.requestBody ∈ persisted) ∧
        submitted = a.ledger.acknowledged ++ a.router.outbox.buffer.records := by
  intro start a submitted persisted hpayloads hkeys hnodup hlost
  have hstart : Audited.Lined ⟨start, {}⟩ :=
    ⟨hresolver, Client.idle_of_none rfl, fun _ _ => ⟨rfl, .inl rfl, fun _ hb => (by cases hb)⟩⟩
  have hlined : a.Lined := by
    refine Audited.run_keeps Audited.Lined.step ?_ hstart actions
    intro x places hx
    obtain ⟨hchanges, hunread⟩ := LossyPeer.process_spec [] places x.router.outbox.store.net
    refine hx.withStore ?_ hchanges
    intro c hc
    simp only [Client.meanwhile, hunread]
    exact hx.idle c hc
  have hdistinct := Delivery.distinct_of_noCollision hpayloads hkeys hnodup
  obtain ⟨hline, hholds⟩ := hlined.line hlost hdistinct
  have hprefix : persisted <+: submitted.map (·.requestBody) := by
    rw [show submitted = _ from hline, List.map_append]
    exact hholds.isPrefix
  refine ⟨Audited.router_run _ _ _, hprefix, hprefix.sublist.nodup hdistinct.bodies, ?_, hline⟩
  intro d hd
  have hd : d.requestBody ∈ a.ledger.acknowledged.map (·.requestBody) := List.mem_map_of_mem hd
  rcases hholds.kept with hkept | ⟨_, _, hkept⟩
  · rw [show persisted = _ from hkept]
    exact hd
  · rw [show persisted = _ from hkept]
    exact List.mem_append_left _ hd

namespace Sample

open LossyPeer

/-- An answer that comes whole. -/
def answered : Move where
  answer := some ⟨2, 0, 0, ⟨1, 1, 1⟩, [], by decide, by decide⟩
  reaches := 36

/-- The peer leaves the first append without answer. On the next connection it processes
that late copy, acknowledges the one sent again, and resets the connection at the other. -/
def moves : List Move := [
  {}, answered, {}, {}, {},
  {}, answered, {}, { answered with late := [0] }, {}, {},
  { loss := some (.fault .reset) }]

end Sample

/-- One append is sent twice, and another one is kept without being acknowledged. -/
theorem lossy_run_in_order :
    let start : Router (Client LossyPeer) CountingPublisher :=
      .create {
        config := ⟨"localhost", 9009, .ofSeconds 5, .ofSeconds 5, "recorder"⟩
        net := { moves := fun n => Sample.moves.getD n {} } }
        Sample.lineage Sample.config Sample.identity [] (.fixed ⟨1, 2, none, none⟩) Sample.publisher
    let a := Audited.run Client.meanwhile ⟨start, {}⟩
      [.setUp 1, .event Sample.tool, .outside [1, 0, 2]]
    let persisted := a.router.outbox.store.net.persisted
    persisted <+: a.ledger.submitted.map (·.requestBody) ∧ persisted.Nodup ∧
      (∀ d ∈ a.ledger.acknowledged, d.requestBody ∈ persisted) ∧
      a.ledger.submitted = a.ledger.acknowledged ++ a.router.outbox.buffer.records :=
  (persisted_in_order (fun n => Sample.moves.getD n {})
    ⟨"localhost", 9009, .ofSeconds 5, .ofSeconds 5, "recorder"⟩ (.fixed ⟨1, 2, none, none⟩)
    (Resolver.fixed_asksOnly _) Sample.lineage Sample.config Sample.identity [] Sample.publisher
    [.setUp 1, .event Sample.tool, .outside [1, 0, 2]]
    (noCollision_of_nodup (by decide +kernel)) (noCollision_of_nodup (by decide +kernel))
    (by decide +kernel) (by decide +kernel)).2

end SessionRecorder
