import SessionRecorder.Proofs.Calm
import SessionRecorder.Proofs.Conservation

/-!
Faults of a store that are over leave no trace in what it holds, as long as no record
was let go. Main statement: `faults_leave_no_trace`.
-/

namespace SessionRecorder

/-- A fault of a store in memory that begins or ends. -/
inductive Fault where
  | disconnect
  | failConnect (on : Bool)
  | failAppends (on : Bool)
  | failCreate (on : Bool)
deriving DecidableEq

namespace Fault

def switch : Fault → MemoryStore.Switch
  | .disconnect => .disconnect
  | .failConnect on => .failConnect on
  | .failAppends on => .failAppends on
  | .failCreate on => .failCreate on

/-- The end of all faults. -/
def ended : List Fault := [.failConnect false, .failAppends false, .failCreate false]

end Fault

namespace MemoryStore

/-- The store when a fault begins or ends. -/
def meet (f : Fault) (s : MemoryStore) : MemoryStore := s.switch f.switch

def meetAll (faults : List Fault) (s : MemoryStore) : MemoryStore :=
  faults.foldl (fun s f => s.meet f) s

/-- Faults change the switches of a store alone. -/
theorem meetAll_eq (faults : List Fault) (s : MemoryStore) :
    ∃ connected failsConnect failsAppends failsCreate, s.meetAll faults =
      { s with connected, failsConnect, failsAppends, failsCreate } := by
  induction faults generalizing s with
  | nil => exact ⟨_, _, _, _, rfl⟩
  | cons f rest ih =>
    obtain ⟨connected, failsConnect, failsAppends, failsCreate, h⟩ := ih (s.meet f)
    change s.meetAll (f :: rest) = _ at h
    rw [h]
    cases f <;> exact ⟨_, _, _, _, rfl⟩

/-- Once all faults have ended, a store without a limit is sound. -/
theorem sound_ended (faults : List Fault) {s : MemoryStore} (h : s.appendLimit = none) :
    (s.meetAll (faults ++ Fault.ended)).Sound := by
  unfold meetAll
  rw [List.foldl_append]
  obtain ⟨_, _, _, _, hmet⟩ := s.meetAll_eq faults
  unfold meetAll at hmet
  rw [hmet]
  exact ⟨rfl, rfl, rfl, h⟩

/-- The first of these calls finds a store that connects and creates contexts. -/
def Opens (calls : List (List Fault × Call)) (s : MemoryStore) : Prop :=
  ∀ faults c, calls.head? = some (faults, c) →
    (s.meetAll faults).failsConnect = false ∧ (s.meetAll faults).failsCreate = false

theorem Opens.append {calls : List (List Fault × Call)} {s : MemoryStore} (h : s.Opens calls)
    (hlimit : s.appendLimit = none) (late : List Fault) (last : Call) :
    s.Opens (calls ++ [(late ++ Fault.ended, last)]) := by
  intro faults c hhead
  cases calls with
  | nil =>
    cases hhead
    have hsound := sound_ended late hlimit
    exact ⟨hsound.connects, hsound.creates⟩
  | cons p rest => exact h faults c hhead

end MemoryStore

/-- Whether a store that refuses these types takes a record. -/
def Delivery.isTaken (refused : List String) (d : Delivery) : Bool := !refused.contains d.type.id

namespace Audited

variable {ρ : Type} {refused : List String} {a b : Audited MemoryStore ρ}

/-- As long as no record was let go, the store holds what it takes of all that was
submitted, except for what still waits. -/
structure Complete (refused : List String) (a : Audited MemoryStore ρ) : Prop where
  resolver : a.router.resolver = .createNew
  refusals : a.router.outbox.store.rejected = refused
  limit : a.router.outbox.store.appendLimit = none
  account : a.router.outbox.buffer.overflow = 0 →
    a.ledger.submitted.filter (·.isTaken refused) =
      a.router.outbox.store.delivered ++ a.router.outbox.buffer.records.filter (·.isTaken refused)

theorem Complete.withStore (h : a.Complete refused) {store : MemoryStore}
    (hturns : store.turns = a.router.outbox.store.turns)
    (hrejected : store.rejected = a.router.outbox.store.rejected)
    (hlimit : store.appendLimit = a.router.outbox.store.appendLimit) :
    (a.become (a.router.withStore store)).Complete refused := by
  refine ⟨h.resolver, hrejected.trans h.refusals, hlimit.trans h.limit, ?_⟩
  have hd : store.delivered = a.router.outbox.store.delivered := by
    simp only [MemoryStore.delivered, hturns]
  simp only [become, Router.withStore, hd]
  exact h.account

theorem Complete.postpone (h : a.Complete refused) (d : Delivery) :
    Complete refused
      ⟨{ a.router with outbox := a.router.outbox.postpone d }, a.ledger.submit d⟩ := by
  refine ⟨h.resolver, h.refusals, h.limit, ?_⟩
  intro hlost
  obtain ⟨hbefore, hrecords⟩ := RetryBuffer.enqueue_lossless hlost
  simp only [Outbox.postpone, Outbox.report, hrecords, Ledger.submit, List.filter_append,
    h.account hbefore, List.append_assoc]

theorem isTaken_of_append_ok {parent : UInt64} {d : Delivery} {s next : MemoryStore}
    {ack : ContextHead} (h : s.append parent d = (.ok ack, next)) :
    d.isTaken s.rejected = true := by
  have hd := (MemoryStore.of_append_ok h).2.1
  simpa [Delivery.isTaken] using hd

theorem not_isTaken_of_refused {parent : UInt64} {d : Delivery} {s next : MemoryStore}
    {e : StoreError} (h : s.append parent d = (.error e, next)) (he : e.isProtocol = true) :
    d.isTaken s.rejected = false := by
  have hd := (MemoryStore.of_append_refused h he).1
  simpa [Delivery.isTaken] using hd

theorem Complete.step (hstep : Step a b) (h : a.Complete refused) : b.Complete refused := by
  have haccount := h.account
  cases hstep with
  | waiting d _ => exact h.postpone d
  | accepted d hw happ =>
    have hnone := records_of_not_waits hw
    have htaken := isTaken_of_append_ok happ
    obtain ⟨_, _, rfl⟩ := MemoryStore.of_append_ok happ
    rw [h.refusals] at htaken
    refine ⟨h.resolver, h.refusals, h.limit, ?_⟩
    intro hlost
    have haccount := haccount hlost
    rw [hnone] at haccount
    simp only [Router.withStore, hnone, MemoryStore.delivered, Ledger.submit, Ledger.acknowledge,
      List.filter_append, List.filter_cons, List.filter_nil, htaken, ↓reduceIte, List.map_append,
      List.append_nil, List.map_singleton] at haccount ⊢
    rw [haccount]
  | refused d hw happ he =>
    have htaken := not_isTaken_of_refused happ he
    obtain ⟨_, rfl⟩ := MemoryStore.of_append_refused happ he
    rw [h.refusals] at htaken
    refine ⟨h.resolver, h.refusals, h.limit, ?_⟩
    intro hlost
    simp only [Ledger.submit, Ledger.refuse, List.filter_append, List.filter_cons, List.filter_nil,
      htaken, Bool.false_eq_true, ↓reduceIte, List.append_nil]
    exact haccount hlost
  | failed d hw happ he =>
    rename_i e store
    obtain ⟨_, _, hnext⟩ := MemoryStore.of_append_failed happ he
    have hlost : (a.become (a.router.withStore store)).Complete refused := by
      rw [hnext]
      exact h.withStore rfl rfl rfl
    exact hlost.postpone d
  | sent hrec happ =>
    have htaken := isTaken_of_append_ok happ
    obtain ⟨_, _, rfl⟩ := MemoryStore.of_append_ok happ
    rw [h.refusals] at htaken
    refine ⟨h.resolver, h.refusals, h.limit, ?_⟩
    intro hlost
    have haccount := haccount hlost
    simp only [hrec, List.filter_cons, htaken, ↓reduceIte] at haccount
    simp only [shift, Ledger.acknowledge, haccount, MemoryStore.delivered, List.map_append,
      List.map_singleton, List.append_assoc, List.singleton_append]
  | rejected hrec happ he =>
    have htaken := not_isTaken_of_refused happ he
    obtain ⟨_, rfl⟩ := MemoryStore.of_append_refused happ he
    rw [h.refusals] at htaken
    refine ⟨h.resolver, h.refusals, h.limit, ?_⟩
    intro hlost
    have haccount := haccount hlost
    simp only [hrec, List.filter_cons, htaken, Bool.false_eq_true, ↓reduceIte] at haccount
    exact haccount
  | stopped hrec happ he =>
    obtain ⟨_, _, rfl⟩ := MemoryStore.of_append_failed happ he
    exact h.withStore rfl rfl rfl
  | connect =>
    obtain ⟨_, _, hs⟩ := a.router.outbox.store.store_connect
    change (ContextStore.connect a.router.outbox.store).2 = _ at hs
    rw [hs]
    exact h.withStore rfl rfl rfl
  | resolve =>
    obtain ⟨_, hs⟩ := a.router.outbox.store.store_createNew a.router.lineage
    rw [h.resolver, hs]
    exact h.withStore rfl rfl rfl
  | close => exact h.withStore rfl rfl rfl
  | report | think | publish | adopt => exact ⟨h.resolver, h.refusals, h.limit, haccount⟩

theorem Complete.run (h : a.Complete refused) [RegistryPublisher ρ]
    (actions : List (Action Fault)) : (a.run MemoryStore.meet actions).Complete refused := by
  refine run_keeps Complete.step ?_ h actions
  intro x f hx
  cases f <;> exact hx.withStore rfl rfl rfl

/-- Of a run over a store that ends without faults, all is stored that the store takes. -/
theorem Complete.delivered (h : a.Complete refused) (hlost : a.router.outbox.buffer.overflow = 0)
    (hempty : a.router.outbox.buffer.records = []) :
    a.router.outbox.store.delivered = a.ledger.submitted.filter (·.isTaken refused) := by
  rw [h.account hlost, hempty, List.filter_nil, List.append_nil]

theorem Complete.delivered_all (h : a.Complete [])
    (hlost : a.router.outbox.buffer.overflow = 0) (hempty : a.router.outbox.buffer.records = []) :
    a.router.outbox.store.delivered = a.ledger.submitted := by
  rw [h.delivered hlost hempty]
  exact List.filter_eq_self.2 fun _ _ => rfl

variable [RegistryPublisher ρ]

theorem run_ofCalls (faults : List Fault) (c : Call) (calls : List (List Fault × Call))
    (a : Audited MemoryStore ρ) :
    a.run MemoryStore.meet (Action.ofCalls ((faults, c) :: calls)) =
      ((a.become (a.router.withStore (a.router.outbox.store.meetAll faults))).handle c).run
        MemoryStore.meet (Action.ofCalls calls) :=
  run_ofCalls_cons MemoryStore.meet faults c calls a

/-- What a new session submits amid faults depends on its calls alone. -/
theorem submitted_amid {calls : List (List Fault × Call)} (hne : calls ≠ [])
    (hnone : a.router.contexts = none) (hresolver : a.router.resolver = .createNew)
    (hopens : a.router.outbox.store.Opens calls) :
    let contexts := SessionContexts.newest a.router.outbox.store.contexts
    let after := a.run MemoryStore.meet (Action.ofCalls calls)
    after.router.contexts = some contexts ∧
      after.ledger.submitted = a.ledger.submitted ++ a.router.asked contexts (calls.map (·.2)) := by
  intro contexts after
  obtain ⟨⟨faults, c⟩, rest, rfl⟩ := List.exists_cons_of_ne_nil hne
  obtain ⟨hconnect, hcreate⟩ := hopens faults c rfl
  let met := a.become (a.router.withStore (a.router.outbox.store.meetAll faults))
  obtain ⟨connected, failsConnect, failsAppends, failsCreate, hmet⟩ :=
    a.router.outbox.store.meetAll_eq faults
  have hstore : met.router.outbox.store = _ := hmet
  have hcontexts : SessionContexts.newest met.router.outbox.store.contexts = contexts := by
    rw [hstore]
  have hasked : met.router.asked contexts (c :: rest.map (·.2)) =
      a.router.asked contexts (c :: rest.map (·.2)) := by
    simp only [Router.asked, Router.openings, Router.opening, hstore]
    rfl
  obtain ⟨hopen, hsubmitted⟩ := submitted_fresh (a := met) MemoryStore.meet c rest hnone
    hresolver hconnect hcreate
  rw [hcontexts] at hopen hsubmitted
  rw [hasked] at hsubmitted
  simp only [after, run_ofCalls]
  exact ⟨hopen, hsubmitted⟩

/-- A call when all faults have ended leaves nothing waiting. -/
theorem empty_ended (faults : List Fault) (last : Call) (h : a.Complete refused)
    (hfresh : a.router.contexts = none → a.router.outbox.buffer.records = []) :
    let after := a.run MemoryStore.meet (Action.ofCalls [(faults ++ Fault.ended, last)])
    after.router.outbox.buffer.records = [] := by
  let met := a.become
    (a.router.withStore (a.router.outbox.store.meetAll (faults ++ Fault.ended)))
  have hsound : met.router.outbox.store.Sound := MemoryStore.sound_ended faults h.limit
  have hsettled := settled_handle (a := met) last h.resolver hsound hfresh rfl
  rw [run_ofCalls]
  exact hsettled.empty

/-- Amid faults that all end, the store holds what it takes of all that the calls of a
new session ask for. -/
theorem delivered_amid (calls : List (List Fault × Call)) (late : List Fault) (last : Call)
    (h : a.Complete refused) (hnone : a.router.contexts = none)
    (hempty : a.router.outbox.buffer.records = []) (hopens : a.router.outbox.store.Opens calls) :
    let contexts := SessionContexts.newest a.router.outbox.store.contexts
    let after := a.run MemoryStore.meet (Action.ofCalls (calls ++ [(late ++ Fault.ended, last)]))
    after.router.outbox.buffer.overflow = 0 →
      after.router.outbox.store.delivered =
          (a.ledger.submitted ++ a.router.asked contexts (calls.map (·.2) ++ [last])).filter
            (·.isTaken refused) ∧
        after.router.outbox.buffer.records = [] := by
  intro contexts after hlost
  have hsubmitted := (submitted_amid (by simp) hnone h.resolver
    (hopens.append h.limit late last)).2
  rw [List.map_append, List.map_singleton] at hsubmitted
  have hnothing : after.router.outbox.buffer.records = [] := by
    simp only [after, Action.ofCalls_append, run_append]
    refine empty_ended late last (h.run _) ?_
    intro hunopened
    by_cases hne : calls = []
    · rw [hne]
      exact hempty
    · rw [(submitted_amid hne hnone h.resolver hopens).1] at hunopened
      cases hunopened
  refine ⟨?_, hnothing⟩
  rw [← hsubmitted]
  exact (h.run _).delivered hlost hnothing

/-- Without faults the store holds all that the calls of a new session ask for. -/
theorem delivered_calls (calls : List Call) (hne : calls ≠ []) (h : a.Complete [])
    (hnone : a.router.contexts = none) (hsound : a.router.outbox.store.Sound)
    (hempty : a.router.outbox.buffer.records = [])
    (hlost : a.router.outbox.buffer.overflow = 0) :
    let contexts := SessionContexts.newest a.router.outbox.store.contexts
    let after := a.run MemoryStore.meet (calls.map .event)
    after.router.contexts = some contexts ∧
      after.router.outbox.store.delivered =
        a.ledger.submitted ++ a.router.asked contexts calls ∧
      after.router.outbox.buffer.records = [] := by
  intro contexts after
  obtain ⟨c, rest, rfl⟩ := List.exists_cons_of_ne_nil hne
  obtain ⟨hnothing, hkept⟩ :=
    settled_calls MemoryStore.meet (c :: rest) h.resolver hsound hempty hlost
  obtain ⟨hcontexts, hsubmitted⟩ := submitted_calls MemoryStore.meet c rest hnone h.resolver
    hsound.connects hsound.creates
  refine ⟨hcontexts, ?_, hnothing⟩
  rw [← hsubmitted]
  exact (h.run _).delivered_all hkept hnothing

end Audited

/-- Faults come and go between the calls of a session, after a first call that could
connect and create contexts. If they all end, and no record had to be let go, then one
more call leaves nothing waiting, and the store holds what it would hold without any
fault, but for the records of the types that it refuses. -/
theorem faults_leave_no_trace {ρ : Type} [RegistryPublisher ρ] (refused : List String)
    (tag : String) (l : Lineage) (config : RouterConfig) (identity : Identity)
    (known : List String) (publisher : Option ρ) (calls : List (List Fault × Call))
    (late : List Fault) (last : Call)
    (hfirst : ∀ faults c, calls.head? = some (faults, c) →
      let s := MemoryStore.meetAll faults { tag, rejected := refused }
      s.failsConnect = false ∧ s.failsCreate = false) :
    let start (refused : List String) : Router MemoryStore ρ :=
      .create { tag, rejected := refused } l config identity known .createNew publisher
    let troubled := (start refused).run MemoryStore.meet
      (Action.ofCalls (calls ++ [(late ++ Fault.ended, last)]))
    let calm := (start []).handleAll (calls.map (·.2) ++ [last])
    troubled.outbox.buffer.overflow = 0 →
      troubled.outbox.store.delivered =
          calm.outbox.store.delivered.filter (·.isTaken refused) ∧
        troubled.outbox.buffer.records = [] := by
  intro start troubled calm hlost
  let begun (refused : List String) : Audited MemoryStore ρ := ⟨start refused, {}⟩
  have hbegun (refused : List String) : (begun refused).Complete refused :=
    ⟨rfl, rfl, rfl, fun _ => rfl⟩
  let all := calls.map (·.2) ++ [last]
  let amid := (begun refused).run MemoryStore.meet
    (Action.ofCalls (calls ++ [(late ++ Fault.ended, last)]))
  let still := (begun []).run MemoryStore.meet (all.map .event)
  have hamid : amid.router = troubled := Audited.router_run _ _ _
  have hstill : still.router = calm := by rw [Audited.router_run, Router.run_calls]
  have hasked : (start refused).asked (.newest 0) all = (start []).asked (.newest 0) all := by
    cases all <;> rfl
  obtain ⟨hheld, hempty⟩ := Audited.delivered_amid calls late last (hbegun refused) rfl rfl hfirst
    (hamid ▸ hlost)
  obtain ⟨_, hcalm, _⟩ := Audited.delivered_calls all (by simp [all]) (hbegun []) rfl
    ⟨rfl, rfl, rfl, rfl⟩ rfl rfl
  rw [← hamid, ← hstill]
  refine ⟨?_, hempty⟩
  calc amid.router.outbox.store.delivered
    _ = ((start refused).asked (.newest 0) all).filter (·.isTaken refused) := hheld
    _ = ((start []).asked (.newest 0) all).filter (·.isTaken refused) := by rw [hasked]
    _ = still.router.outbox.store.delivered.filter (·.isTaken refused) := by rw [hcalm]; rfl

/-- A store that refuses the records of tools loses an append, and then its connection. -/
theorem outage_leaves_no_trace :
    let start (refused : List String) : Router MemoryStore CountingPublisher :=
      .create { tag := "recorder", rejected := refused } Sample.lineage Sample.config
        Sample.identity [] .createNew Sample.publisher
    let troubled := (start ["amplifier.ToolEvent"]).run MemoryStore.meet (Action.ofCalls [
      ([], Sample.prompt),
      ([.failAppends true, .failCreate true], Sample.tool),
      ([.failAppends false, .disconnect, .failConnect true], Sample.finish),
      ([.disconnect] ++ Fault.ended, Sample.prompt)])
    let calm := (start []).handleAll [Sample.prompt, Sample.tool, Sample.finish, Sample.prompt]
    troubled.outbox.store.delivered =
        calm.outbox.store.delivered.filter (·.isTaken ["amplifier.ToolEvent"]) ∧
      troubled.outbox.buffer.records = [] := by
  refine faults_leave_no_trace ["amplifier.ToolEvent"] "recorder" Sample.lineage Sample.config
    Sample.identity [] Sample.publisher [
      ([], Sample.prompt),
      ([.failAppends true, .failCreate true], Sample.tool),
      ([.failAppends false, .disconnect, .failConnect true], Sample.finish)]
    [.disconnect] Sample.prompt ?_ ?_
  · intro faults c h
    cases h
    exact ⟨rfl, rfl⟩
  · decide +kernel

end SessionRecorder
