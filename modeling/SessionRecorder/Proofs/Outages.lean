import SessionRecorder.Proofs.SessionLogs

/-!
What becomes of records while the store cannot be reached. From the call on that gives a
session its contexts, outages only delay records: each of them is stored or waits. What
is handled before that call has no context to go to. Main statement: `outages_only_delay`.
-/

namespace SessionRecorder

namespace MemoryStore

/-- Whether a change makes the store refuse a type of records. -/
def Switch.refuses : Switch → Bool
  | .reject _ => true
  | _ => false

end MemoryStore

/-- A change of the faults of a store in memory that makes it refuse nothing. -/
abbrev Outage := { s : MemoryStore.Switch // s.refuses = false }

namespace MemoryStore

def undergo (o : Outage) (s : MemoryStore) : MemoryStore := s.switch o.1

theorem rejected_undergo (o : Outage) (s : MemoryStore) : (s.undergo o).rejected = s.rejected := by
  obtain ⟨change, hrefuses⟩ := o
  cases change with
  | reject typeId => cases hrefuses
  | _ => rfl

end MemoryStore

/-- A resolver that neither appends by itself nor changes what the store refuses. -/
structure Resolver.LeavesRecords (resolver : Resolver MemoryStore) : Prop where
  turns : resolver.LeavesTurns
  rejected : ∀ l s, (resolver l s).2.2.rejected = s.rejected

theorem Resolver.createNew_leavesRecords : LeavesRecords createNew where
  turns := createNew_leavesTurns
  rejected := by
    intro l s
    obtain ⟨_, h⟩ := s.store_createNew l
    rw [h]

/-- The records that a call asks for, told by the calls before it in its cycle: that of
its event, if it is recorded, and at the end of a cycle the items of the turn. -/
def Cycle.due (contexts : SessionContexts) (shape : RecordShape) (l : Lineage)
    (start : Deduplicator) : List Call × Call → List Delivery
  | (before, c) =>
    (if records start before c then
      [(Record.ofEvent shape c.event c.data l c.readings.event).into contexts.events]
    else []) ++
    (if c.event = Pipeline.cycleEnd then
      (items l before c.readings.turn).map fun item =>
        Record.into contexts.turns ⟨.conversationItem, item⟩
    else [])

namespace Cycle

variable {contexts : SessionContexts} {shape : RecordShape} {l : Lineage} {start : Deduplicator}

/-- What the decision about a call asks for is what is due. -/
theorem deliveries_step (hstart : start.reset = start) (before : List Call) (c : Call) :
    ((after start l.agent before).step c.readings.steady c.event c.data).1.deliveries
      contexts shape l c = due contexts shape l start (before, c) := by
  rw [step_after hstart, due]
  cases hrecords : records start before c with
  | false =>
    obtain ⟨_, hend⟩ := plain_of_not_records hrecords
    simp only [hend, Bool.false_eq_true, ↓reduceIte, List.append_nil]
    rfl
  | true =>
    by_cases hend : c.event = Pipeline.cycleEnd
    · simp only [hend, ↓reduceIte, Decision.deliveries, items_finished]
      rfl
    · simp only [hend, ↓reduceIte, Decision.deliveries]
      rfl

theorem deliveries_due (hstart : start.reset = start) (before calls : List Call) :
    (after start l.agent before).deliveries contexts shape l calls =
      (Call.inCycles before calls).flatMap (due contexts shape l start) := by
  induction calls generalizing before with
  | nil => rfl
  | cons c rest ih =>
    rw [Call.inCycles, List.flatMap_cons, ← ih, ← deliveries_step hstart, Pipeline.deliveries,
      step_after hstart]

end Cycle

namespace Audited

variable {ρ κ : Type}

/-! ## Records that no store refuses -/

section

variable {a : Audited MemoryStore ρ}

/-- The store refuses no type, and no record has been refused. -/
structure Unrefused (a : Audited MemoryStore ρ) : Prop where
  resolver : a.router.resolver.LeavesRecords
  types : a.router.outbox.store.rejected = []
  late : a.router.outbox.buffer.rejected = 0
  atOnce : a.ledger.refused = []

theorem Unrefused.withStore (h : a.Unrefused) {store : MemoryStore}
    (hs : store.rejected = a.router.outbox.store.rejected) :
    (a.become (a.router.withStore store)).Unrefused :=
  ⟨h.resolver, hs.trans h.types, h.late, h.atOnce⟩

theorem Unrefused.postpone (h : a.Unrefused) (d : Delivery) :
    Unrefused ⟨{ a.router with outbox := a.router.outbox.postpone d }, a.ledger.submit d⟩ :=
  ⟨h.resolver, h.types, (RetryBuffer.rejected_enqueue d _).trans h.late, h.atOnce⟩

theorem Unrefused.not_refused (h : a.Unrefused) {parent : UInt64} {d : Delivery} {e : StoreError}
    {store : MemoryStore} (happ : a.router.outbox.store.append parent d = (.error e, store)) :
    e.isProtocol = false := by
  cases he : e.isProtocol with
  | false => rfl
  | true =>
    have hd := (MemoryStore.of_append_refused happ he).1
    rw [h.types] at hd
    cases hd

theorem Unrefused.step {b : Audited MemoryStore ρ} (hstep : Step a b) (h : a.Unrefused) :
    b.Unrefused := by
  cases hstep with
  | waiting d _ => exact h.postpone d
  | accepted d _ happ =>
    obtain ⟨_, _, rfl⟩ := MemoryStore.of_append_ok happ
    exact ⟨h.resolver, h.types, h.late, h.atOnce⟩
  | refused d _ happ he =>
    rw [h.not_refused happ] at he
    cases he
  | failed d hw happ he =>
    rename_i e store
    obtain ⟨_, _, hnext⟩ := MemoryStore.of_append_failed happ he
    have hfailed : (a.become (a.router.withStore store)).Unrefused := h.withStore (by rw [hnext])
    exact hfailed.postpone d
  | sent _ happ =>
    obtain ⟨_, _, rfl⟩ := MemoryStore.of_append_ok happ
    exact ⟨h.resolver, h.types, h.late, h.atOnce⟩
  | rejected _ happ he =>
    rw [h.not_refused happ] at he
    cases he
  | stopped _ happ he =>
    obtain ⟨_, _, rfl⟩ := MemoryStore.of_append_failed happ he
    exact h.withStore rfl
  | connect =>
    obtain ⟨_, _, hs⟩ := a.router.outbox.store.store_connect
    exact h.withStore (congrArg (·.rejected) hs)
  | resolve => exact h.withStore (h.resolver.rejected _ _)
  | close => exact h.withStore rfl
  | report | think | publish | adopt => exact ⟨h.resolver, h.types, h.late, h.atOnce⟩

/-- Where nothing was let go or refused, what was submitted is stored or waits. -/
theorem Unrefused.held_eq_submitted (h : a.Unrefused) (hconserved : a.Conserved)
    (hlost : a.router.outbox.buffer.overflow = 0) :
    a.router.outbox.store.delivered ++ a.router.outbox.buffer.records = a.ledger.submitted := by
  refine hconserved.order.eq_of_length ?_
  rw [hconserved.count, hlost, h.late, h.atOnce]
  rfl

end

variable [RegistryPublisher ρ] {a : Audited MemoryStore ρ}

/-- The preparation of a call without contexts submits nothing, or opens contexts. -/
theorem prepare_cases (time : Int64) (hnone : a.router.contexts = none) :
    ((a.prepare time).router.contexts = none ∧ (a.prepare time).ledger = a.ledger) ∨
      ∃ contexts openings, (a.prepare time).router.contexts = some contexts ∧
        (a.prepare time).ledger.submitted = a.ledger.submitted ++ openings := by
  have hconnect := contexts_connectFirst a.router
  simp only [prepare, Router.prepare, setUp, Router.setUp, hnone, Option.isNone_none,
    Option.isSome_none, Bool.false_eq_true, ↓reduceIte]
  rcases hfirst : a.router.connectFirst with ⟨e | ⟨⟩, connected⟩ <;> rw [hfirst] at hconnect
  · exact .inl ⟨hconnect.trans hnone, rfl⟩
  · have hpublish : connected.publishBundle.resolve.2.contexts = none :=
      (contexts_publishBundle connected).trans (hconnect.trans hnone)
    rcases hresolve : connected.publishBundle.resolve with ⟨e | contexts, resolved⟩ <;>
      simp only [hresolve] at hpublish ⊢
    · exact .inl ⟨hpublish, trivial⟩
    · exact .inr ⟨contexts, _, rfl, submitted_openContexts contexts time (a.become resolved)⟩

/-- Of the calls of a new session the first `n` leave it without contexts. From then on all
that is due is submitted. -/
structure OpensAfter (change : κ → MemoryStore → MemoryStore) (start : Deduplicator)
    (before : List Call) (calls : List (List κ × Call)) (n : Nat) (a : Audited MemoryStore ρ) :
    Prop where
  opened : ∀ k ≤ calls.length,
    (a.run change (Action.ofCalls (calls.take k))).router.contexts.isSome ↔ n < k
  submitted : ∀ contexts, (a.run change (Action.ofCalls calls)).router.contexts = some contexts →
    ∃ openings, (a.run change (Action.ofCalls calls)).ledger.submitted =
      a.ledger.submitted ++ openings ++ ((Call.inCycles before (calls.map (·.2))).drop n).flatMap
        (Cycle.due contexts a.router.config.shape a.router.lineage start)

section

variable {b : Audited MemoryStore ρ} {change : κ → MemoryStore → MemoryStore}
  {start : Deduplicator} {before : List Call} {changes : List κ} {c : Call}
  {rest : List (List κ × Call)}

/-- One more call that finds no contexts comes first. -/
theorem OpensAfter.later {n : Nat}
    (h : b.OpensAfter change start (if c.event = Pipeline.cycleEnd then [] else before ++ [c])
      rest n)
    (hrun : ∀ tail, a.run change (Action.ofCalls ((changes, c) :: tail)) =
      b.run change (Action.ofCalls tail))
    (hnone : a.router.contexts = none) (halike : a.router.Alike b.router)
    (hnothing : b.ledger.submitted = a.ledger.submitted) :
    a.OpensAfter change start before ((changes, c) :: rest) (n + 1) := by
  refine ⟨?_, ?_⟩
  · intro k hk
    cases k with
    | zero => simp [run, Action.ofCalls, hnone]
    | succ k =>
      rw [List.take_succ_cons, hrun, h.opened k (by simpa using hk)]
      omega
  · intro contexts hcontexts
    rw [hrun] at hcontexts ⊢
    obtain ⟨openings, hsubmitted⟩ := h.submitted contexts hcontexts
    refine ⟨openings, ?_⟩
    rw [hsubmitted, hnothing, halike.config, halike.lineage]
    rfl

/-- The first call opens the contexts, which stay. -/
theorem opensAfter_zero {contexts : SessionContexts} {openings : List Delivery}
    (hstart : start.reset = start)
    (hrun : ∀ tail, a.run change (Action.ofCalls ((changes, c) :: tail)) =
      b.run change (Action.ofCalls tail))
    (hnone : a.router.contexts = none) (halike : a.router.Alike b.router)
    (hcontexts : b.router.contexts = some contexts)
    (hpipeline : b.router.pipeline = Cycle.after start a.router.lineage.agent
      (if c.event = Pipeline.cycleEnd then [] else before ++ [c]))
    (hsubmitted : b.ledger.submitted = a.ledger.submitted ++ openings ++
      Cycle.due contexts a.router.config.shape a.router.lineage start (before, c)) :
    a.OpensAfter change start before ((changes, c) :: rest) 0 := by
  refine ⟨?_, ?_⟩
  · intro k _
    cases k with
    | zero => simp [run, Action.ofCalls, hnone]
    | succ k => simp [hrun, contexts_run change hcontexts]
  · intro found hfound
    rw [hrun, contexts_run change hcontexts, Option.some.injEq] at hfound
    subst hfound
    refine ⟨openings, ?_⟩
    rw [hrun, submitted_ofCalls change rest hcontexts, hsubmitted, hpipeline, halike.config,
      halike.lineage, Cycle.deliveries_due hstart, List.append_assoc]
    rfl

end

/-- Some calls of a new session find no contexts, and all others submit what is due. -/
theorem exists_opensAfter (change : κ → MemoryStore → MemoryStore) {start : Deduplicator}
    (hstart : start.reset = start) (before : List Call) (calls : List (List κ × Call))
    (hnone : a.router.contexts = none)
    (hpipeline : a.router.pipeline = Cycle.after start a.router.lineage.agent before) :
    ∃ n, a.OpensAfter change start before calls n := by
  induction calls generalizing a before with
  | nil =>
    refine ⟨0, ?_, ?_⟩
    · intro k hk
      obtain rfl : k = 0 := by simpa using hk
      simp [run, Action.ofCalls, hnone]
    · intro contexts h
      rw [show (a.run change (Action.ofCalls [])).router.contexts = none from hnone] at h
      cases h
  | cons p rest ih =>
    obtain ⟨changes, c⟩ := p
    let met := a.become
      (a.router.withStore (changes.foldl (fun s k => change k s) a.router.outbox.store))
    have hmet : met.router.contexts = none := hnone
    have hbefore : met.router.pipeline = Cycle.after start met.router.lineage.agent before :=
      hpipeline
    have hrun := fun tail => run_ofCalls_cons change changes c tail a
    obtain ⟨hl, hc, hi, hr⟩ := (steps_handle c met).alike
    have halike : a.router.Alike (met.handle c).router := ⟨hl, hc, hi, hr⟩
    have hnext : (met.handle c).router.pipeline = Cycle.after start met.router.lineage.agent
        (if c.event = Pipeline.cycleEnd then [] else before ++ [c]) := by
      rw [show (met.handle c).router.pipeline = _ from Router.pipeline_handleEvent _ _ _ met.router,
        hbefore, Cycle.step_after hstart]
    rcases prepare_cases c.readings.setUp hmet with
      ⟨hprepared, hledger⟩ | ⟨contexts, openings, hprepared, hledger⟩
    · obtain ⟨hunopened, hnothing⟩ := handle_unopened c hprepared
      rw [hledger] at hnothing
      obtain ⟨n, hlater⟩ := ih _ hunopened (hl ▸ hnext)
      exact ⟨n + 1, hlater.later hrun hnone halike hnothing⟩
    · have hhandled := (steps_handle_of_prepared c met).contexts hprepared
      have hsubmitted := submitted_handle_of_prepared c hprepared
      rw [hledger, hbefore, Cycle.deliveries_step hstart] at hsubmitted
      exact ⟨0, opensAfter_zero hstart hrun hnone halike hhandled hnext hsubmitted⟩

end Audited

/-- No outage costs a record. If no type is refused and no record had to be let go, then
from the call on that gives a session its contexts, the record of each event that is
recorded and those of the turn of each cycle that ends are stored or wait, in their order
and each as often as it is due. -/
theorem outages_only_delay {ρ : Type} [RegistryPublisher ρ] (resolver : Resolver MemoryStore)
    (hresolver : resolver.LeavesRecords) (tag : String) (l : Lineage) (config : RouterConfig)
    (identity : Identity) (known : List String) (publisher : Option ρ)
    (calls : List (List Outage × Call)) :
    let start : Router MemoryStore ρ := .create { tag } l config identity known resolver publisher
    let after (k : Nat) := start.run MemoryStore.undergo (Action.ofCalls (calls.take k))
    let r := start.run MemoryStore.undergo (Action.ofCalls calls)
    let cycles := Call.inCycles [] (calls.map (·.2))
    r.outbox.buffer.overflow = 0 →
      ∃ n, (∀ k ≤ calls.length, (after k).contexts.isSome ↔ n < k) ∧
        ∀ contexts, r.contexts = some contexts →
          ((cycles.drop n).flatMap
            (Cycle.due contexts config.shape l (.ofMode config.dedupMode known))).Sublist
            (r.outbox.store.delivered ++ r.outbox.buffer.records) := by
  intro start after r cycles hlost
  let begun : Audited MemoryStore ρ := ⟨start, {}⟩
  let last := begun.run MemoryStore.undergo (Action.ofCalls calls)
  have hrouter (calls : List (List Outage × Call)) :
      (begun.run MemoryStore.undergo (Action.ofCalls calls)).router =
        start.run MemoryStore.undergo (Action.ofCalls calls) := Audited.router_run _ _ _
  have hlast : last.router = r := hrouter calls
  have hunrefused : last.Unrefused := Audited.run_keeps Audited.Unrefused.step
    (fun o h => h.withStore (MemoryStore.rejected_undergo o _)) ⟨hresolver, rfl, rfl, rfl⟩ _
  have hconserved : last.Conserved := Audited.run_keeps Audited.Conserved.step
    (fun o h => h.withStore _ (MemoryStore.turns_switch _ o.1))
    ⟨hresolver.turns, by simp only [begun, start, Router.create, RetryBuffer.ofCapacity]; omega,
      .refl _, rfl⟩ _
  have hheld := hunrefused.held_eq_submitted hconserved (hlast ▸ hlost)
  obtain ⟨n, hopens⟩ := Audited.exists_opensAfter (a := begun) MemoryStore.undergo
    (Deduplicator.reset_ofMode config.dedupMode known) [] calls rfl rfl
  refine ⟨n, ?_, ?_⟩
  · intro k hk
    have hopened := hopens.opened k hk
    rw [hrouter] at hopened
    exact hopened
  · intro contexts hcontexts
    obtain ⟨openings, hsubmitted⟩ := hopens.submitted contexts (hlast ▸ hcontexts)
    rw [← hlast, hheld, hsubmitted]
    exact List.sublist_append_right _ _

namespace Sample

/-- The store cannot be connected, or can be again. -/
def unreachable (on : Bool) : Outage := ⟨.failConnect on, rfl⟩

/-- Appends lose the connection behind one more of them. -/
def losing : Outage := ⟨.failAppendsAfter 1, rfl⟩

/-- The store is out of reach at first, and loses appends later. -/
def troubled : List (List Outage × Call) :=
  [([unreachable true], prompt), ([unreachable false], tool), ([losing], finish), ([], prompt)]

end Sample

/-- The second call gives the session its contexts, and nothing that comes then is lost. -/
theorem outages_delay :
    let start : Router MemoryStore CountingPublisher :=
      .create { tag := "recorder" } Sample.lineage Sample.config Sample.identity [] .createNew
        Sample.publisher
    let after (k : Nat) :=
      start.run MemoryStore.undergo (Action.ofCalls (Sample.troubled.take k))
    let r := start.run MemoryStore.undergo (Action.ofCalls Sample.troubled)
    let cycles := Call.inCycles [] (Sample.troubled.map (·.2))
    r.outbox.buffer.overflow = 0 ∧ (after 1).contexts = none ∧
      (after 2).contexts = some ⟨1, 2, none, none⟩ ∧
      ∃ n, (∀ k ≤ Sample.troubled.length, (after k).contexts.isSome ↔ n < k) ∧
        ∀ contexts, r.contexts = some contexts →
          ((cycles.drop n).flatMap (Cycle.due contexts Sample.config.shape Sample.lineage
            (.ofMode Sample.config.dedupMode []))).Sublist
            (r.outbox.store.delivered ++ r.outbox.buffer.records) := by
  refine ⟨by decide +kernel, by decide +kernel, by decide +kernel, ?_⟩
  refine outages_only_delay .createNew Resolver.createNew_leavesRecords "recorder" Sample.lineage
    Sample.config Sample.identity [] Sample.publisher Sample.troubled ?_
  decide +kernel

/-- An exchange that begins and ends before the store can be reached is lost, though no
record had to be let go: neither the record of its prompt nor that of its turn is held. -/
theorem early_exchange_lost :
    let calls := [([Sample.unreachable true], Sample.prompt), ([], Sample.finish),
      ([Sample.unreachable false], Sample.tool)]
    let start : Router MemoryStore CountingPublisher :=
      .create { tag := "recorder" } Sample.lineage Sample.config Sample.identity [] .createNew
        Sample.publisher
    let r := start.run MemoryStore.undergo (Action.ofCalls calls)
    let held := (r.outbox.store.delivered ++ r.outbox.buffer.records).map (·.payload)
    let dedup := Deduplicator.ofMode Sample.config.dedupMode []
    let turn := Cycle.items Sample.lineage [Sample.prompt] Sample.finish.readings.turn
    r.outbox.buffer.overflow = 0 ∧ r.contexts = some ⟨1, 2, none, none⟩ ∧
      Cycle.records dedup [] Sample.prompt = true ∧
      (Record.ofEvent Sample.config.shape Sample.prompt.event Sample.prompt.data Sample.lineage
        Sample.prompt.readings.event).payload.serialize ∉ held ∧
      turn ≠ [] ∧ ∀ item ∈ turn, item.serialize ∉ held := by
  decide +kernel

end SessionRecorder
