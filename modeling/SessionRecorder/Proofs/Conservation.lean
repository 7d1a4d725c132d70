import SessionRecorder.Proofs.Work
import SessionRecorder.Store.Memory

/-!
No record is lost unseen, stored twice or stored out of order. What a store in memory
holds, followed by what waits for it, is made of the submitted records in their order,
and those that are missing are counted. Main statement: `records_conserved`.
-/

namespace SessionRecorder

/-- A resolver that appends nothing by itself. -/
def Resolver.LeavesTurns (resolver : Resolver MemoryStore) : Prop :=
  ∀ l s, (resolver l s).2.2.turns = s.turns

namespace MemoryStore

theorem store_connect (s : MemoryStore) :
    ∃ connects connected, s.connect.2 = { s with connects, connected } := by
  simp only [connect]
  split <;> exact ⟨_, _, rfl⟩

theorem turns_connect (s : MemoryStore) : s.connect.2.turns = s.turns := by
  obtain ⟨_, _, h⟩ := s.store_connect
  rw [h]

theorem store_newContext (turn : UInt64) (s : MemoryStore) :
    ∃ contexts, (s.newContext turn).2 = { s with contexts } := by
  unfold newContext
  split
  · exact ⟨_, rfl⟩
  · split <;> exact ⟨_, rfl⟩

theorem store_createNew (l : Lineage) (s : MemoryStore) :
    ∃ contexts, (Resolver.createNew l s).2.2 = { s with contexts } := by
  obtain ⟨first, hfirst⟩ := s.store_newContext 0
  change (ContextStore.create 0 s).2 = _ at hfirst
  unfold Resolver.createNew
  rcases h : ContextStore.create 0 s with ⟨e | head, next⟩ <;> rw [h] at hfirst <;> subst hfirst
  · exact ⟨_, rfl⟩
  · obtain ⟨second, hsecond⟩ := store_newContext 0 { s with contexts := first }
    change (ContextStore.create 0 { s with contexts := first }).2 = _ at hsecond
    rcases h' : ContextStore.create 0 { s with contexts := first } with ⟨e | head, last⟩ <;>
      rw [h'] at hsecond <;>
      subst hsecond <;>
      simp only [h'] <;>
      exact ⟨_, rfl⟩

theorem turns_switch (s : MemoryStore) (change : Switch) : (s.switch change).turns = s.turns := by
  cases change <;> rfl

end MemoryStore

namespace Resolver

theorem createNew_leavesTurns : LeavesTurns createNew := by
  intro l s
  obtain ⟨_, h⟩ := s.store_createNew l
  rw [h]

theorem forkTurns_leavesTurns (base : UInt64) : LeavesTurns (forkTurns base) := by
  intro l s
  obtain ⟨_, hfork⟩ := s.store_newContext base
  change (ContextStore.fork base s).2 = _ at hfork
  unfold forkTurns
  rcases h : ContextStore.fork base s with ⟨e | head, next⟩ <;> rw [h] at hfork <;> subst hfork
  · rfl
  · exact createNew_leavesTurns l _

theorem fixed_leavesTurns (contexts : SessionContexts) : LeavesTurns (fixed contexts) :=
  fun _ _ => rfl

theorem failing_leavesTurns (e : StoreError) : LeavesTurns (failing e) :=
  fun _ _ => rfl

end Resolver

/-- A full buffer lets one record go for the one that comes, and counts it. -/
theorem RetryBuffer.enqueue_conserves (d : Delivery) {b : RetryBuffer} (hb : 0 < b.capacity) :
    (b.enqueue d).1.records.Sublist (b.records ++ [d]) ∧
      (b.enqueue d).1.records.length + (b.enqueue d).1.overflow =
        b.records.length + b.overflow + 1 := by
  by_cases hroom : b.records.length < b.capacity
  · rw [enqueue_of_room d hroom]
    refine ⟨.refl _, ?_⟩
    simp only [List.length_append, List.length_singleton]
    omega
  · rw [enqueue_of_full d (by omega)]
    refine ⟨(List.tail_sublist b.records).append_right [d], ?_⟩
    simp only [List.length_append, List.length_tail, List.length_singleton]
    omega

namespace Audited

variable {ρ : Type}

/-- The account of the records between the ledger, the store and the buffer. -/
structure Conserved (a : Audited MemoryStore ρ) : Prop where
  resolver : a.router.resolver.LeavesTurns
  capacity : 0 < a.router.outbox.buffer.capacity
  order : (a.router.outbox.store.delivered ++ a.router.outbox.buffer.records).Sublist
    a.ledger.submitted
  count : a.ledger.submitted.length =
    (a.router.outbox.store.delivered ++ a.router.outbox.buffer.records).length +
      a.router.outbox.buffer.overflow + a.router.outbox.buffer.rejected + a.ledger.refused.length

/-- The account depends on what the store holds alone. -/
theorem Conserved.withStore {a : Audited MemoryStore ρ} (h : a.Conserved) (store : MemoryStore)
    (hs : store.turns = a.router.outbox.store.turns) :
    (a.become (a.router.withStore store)).Conserved := by
  have hd : store.delivered = a.router.outbox.store.delivered := by
    simp only [MemoryStore.delivered, hs]
  refine ⟨h.resolver, h.capacity, ?_, ?_⟩
  · simp only [become, Router.withStore, hd]
    exact h.order
  · simp only [become, Router.withStore, hd]
    exact h.count

/-- A record that is handed over and waits is accounted for. -/
theorem Conserved.postpone {a : Audited MemoryStore ρ} (h : a.Conserved) (d : Delivery) :
    Conserved ⟨{ a.router with outbox := a.router.outbox.postpone d }, a.ledger.submit d⟩ := by
  obtain ⟨hsub, hlen⟩ := RetryBuffer.enqueue_conserves d h.capacity
  refine ⟨h.resolver, ?_, ?_, ?_⟩
  · simpa [Outbox.postpone, Outbox.report] using h.capacity
  · simp only [Outbox.postpone, Outbox.report, Ledger.submit]
    have hafter := (List.Sublist.refl a.router.outbox.store.delivered).append hsub
    rw [← List.append_assoc] at hafter
    exact hafter.trans (h.order.append_right [d])
  · have hcount := h.count
    simp only [List.length_append] at hcount
    simp only [Outbox.postpone, Outbox.report, Ledger.submit, List.length_append,
      List.length_singleton, RetryBuffer.rejected_enqueue]
    omega

theorem records_of_not_waits {σ : Type} [ContextStore σ] {o : Outbox σ} (h : o.waits = false) :
    o.buffer.records = [] := by
  simp only [Outbox.waits, Bool.or_eq_false_iff, Bool.not_eq_false', RetryBuffer.isEmpty,
    List.isEmpty_iff] at h
  exact h.2

theorem Conserved.step {a b : Audited MemoryStore ρ} (hstep : Step a b) (h : a.Conserved) :
    b.Conserved := by
  have horder := h.order
  have hcount := h.count
  cases hstep with
  | waiting d _ => exact h.postpone d
  | accepted d hw happ =>
    -- Nothing waits, so the record is behind everything that is stored.
    have hnone := records_of_not_waits hw
    obtain ⟨_, _, rfl⟩ := MemoryStore.of_append_ok happ
    rw [hnone, List.append_nil] at horder hcount
    refine ⟨h.resolver, h.capacity, ?_, ?_⟩
    · simpa [Router.withStore, hnone, MemoryStore.delivered, Ledger.submit, Ledger.acknowledge]
        using horder.append_right [d]
    · simp only [Router.withStore, hnone, MemoryStore.delivered, Ledger.submit, Ledger.acknowledge,
        List.map_append, List.length_append, List.length_map, List.length_singleton,
        List.map_singleton, List.append_nil] at hcount ⊢
      omega
  | refused d hw happ he =>
    obtain ⟨_, rfl⟩ := MemoryStore.of_append_refused happ he
    refine ⟨h.resolver, h.capacity, ?_, ?_⟩
    · exact horder.trans (List.sublist_append_left _ [d])
    · simp only [Router.withStore, Ledger.submit, Ledger.refuse, List.length_append,
        List.length_singleton, MemoryStore.delivered] at hcount ⊢
      omega
  | failed d hw happ he =>
    rename_i e store
    obtain ⟨_, appends, hnext⟩ := MemoryStore.of_append_failed happ he
    have hlost := h.withStore store (by rw [hnext])
    exact hlost.postpone d
  | sent hrec happ =>
    obtain ⟨_, _, rfl⟩ := MemoryStore.of_append_ok happ
    rw [hrec] at horder hcount
    refine ⟨h.resolver, h.capacity, ?_, ?_⟩
    · simpa [shift, MemoryStore.delivered, Ledger.acknowledge] using horder
    · simp only [shift, MemoryStore.delivered, Ledger.acknowledge, List.map_append,
        List.length_append, List.length_cons, List.length_map, List.map_singleton,
        List.length_nil] at hcount ⊢
      omega
  | rejected hrec happ he =>
    obtain ⟨_, rfl⟩ := MemoryStore.of_append_refused happ he
    rw [hrec] at horder hcount
    refine ⟨h.resolver, h.capacity, ?_, ?_⟩
    · exact ((List.Sublist.refl _).append (List.sublist_cons_self _ _)).trans horder
    · simp only [shift, List.length_append, List.length_cons, MemoryStore.delivered] at hcount ⊢
      omega
  | stopped hrec happ he =>
    obtain ⟨_, _, rfl⟩ := MemoryStore.of_append_failed happ he
    exact h.withStore _ rfl
  | connect => exact h.withStore _ (MemoryStore.turns_connect _)
  | resolve => exact h.withStore _ (h.resolver _ _)
  | close => exact h.withStore _ rfl
  | report | think | publish | adopt => exact ⟨h.resolver, h.capacity, horder, hcount⟩

end Audited

/-- The records that a store in memory holds, followed by those that wait for it, are
submitted records in the order of their submission, each at most once. Those that are
missing were let go by a full buffer, or refused by the store, late or at once. -/
theorem records_conserved {ρ : Type} [RegistryPublisher ρ] (resolver : Resolver MemoryStore)
    (hresolver : resolver.LeavesTurns) (tag : String) (l : Lineage) (config : RouterConfig)
    (identity : Identity) (known : List String) (publisher : Option ρ)
    (actions : List (Action MemoryStore.Switch)) :
    let start : Router MemoryStore ρ := .create { tag } l config identity known resolver publisher
    let a := Audited.run (fun change store => store.switch change) ⟨start, {}⟩ actions
    let stored := a.router.outbox.store.delivered
    let buffer := a.router.outbox.buffer
    a.router = start.run (fun change store => store.switch change) actions ∧
      (stored ++ buffer.records).Sublist a.ledger.submitted ∧
      a.ledger.submitted.length = (stored ++ buffer.records).length +
        (buffer.overflow + buffer.rejected + a.ledger.refused.length) := by
  intro start a stored buffer
  have hstart : Audited.Conserved ⟨start, {}⟩ :=
    ⟨hresolver, by simp only [start, Router.create, RetryBuffer.ofCapacity]; omega, .refl _, rfl⟩
  have h : a.Conserved := Audited.run_keeps Audited.Conserved.step
    (fun change hx => hx.withStore _ (MemoryStore.turns_switch _ change)) hstart actions
  refine ⟨Audited.router_run _ _ _, h.order, ?_⟩
  rw [show a.ledger.submitted.length = (stored ++ buffer.records).length + buffer.overflow +
    buffer.rejected + a.ledger.refused.length from h.count]
  omega

/-- A record is refused at once, one is refused late, and the last ones wait. -/
theorem refusals_conserved :
    let start : Router MemoryStore CountingPublisher :=
      .create { tag := "recorder" } Sample.lineage Sample.config Sample.identity [] .createNew
        Sample.publisher
    let a := Audited.run (fun change store => store.switch change) ⟨start, {}⟩ [
      .setUp 1, .outside (.reject "amplifier.ToolEvent"), .event Sample.prompt, .event Sample.tool,
      .outside .disconnect, .outside (.failConnect true), .event Sample.tool,
      .outside (.failConnect false), .event Sample.finish, .outside (.failAppends true),
      .event Sample.prompt, .cleanUp 4]
    let stored := a.router.outbox.store.delivered
    let buffer := a.router.outbox.buffer
    (stored ++ buffer.records).Sublist a.ledger.submitted ∧
      a.ledger.submitted.length = (stored ++ buffer.records).length +
        (buffer.overflow + buffer.rejected + a.ledger.refused.length) :=
  (records_conserved .createNew Resolver.createNew_leavesTurns "recorder" Sample.lineage
    Sample.config Sample.identity [] Sample.publisher _).2

end SessionRecorder
