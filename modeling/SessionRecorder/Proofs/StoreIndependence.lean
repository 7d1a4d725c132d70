import SessionRecorder.Proofs.Ledger
import SessionRecorder.Router.Decisions
import SessionRecorder.Store.Memory

/-!
No store has a part in what is decided. The course of a router, that is its decisions about events
and the state of the pipeline behind each of them, follows from the events and the steady clock
(`Router.course_eq`). So two routers over any two stores that are given the same events have the
same course. Main statement: `course_independent_of_store`.
-/

namespace SessionRecorder

namespace Pipeline

/-- What a pipeline is given: an event at a reading of the steady clock, or the end of the
session. -/
inductive Input where
  | event (now : Nat) (name : String) (data : Json)
  | finish

/-- The state behind an input. The end of the session flushes the turn. -/
def after (p : Pipeline) : Input → Pipeline
  | .event now name data => (p.step now name data).2
  | .finish => { p with turns := p.turns.flush.2 }

/-- The decisions about the events of a session, each with the state behind it. -/
def course : Pipeline → List Input → List (Decision × Pipeline)
  | _, [] => []
  | p, .event now name data :: rest => p.step now name data :: course (p.step now name data).2 rest
  | p, .finish :: rest => course (p.after .finish) rest

end Pipeline

/-- What an action gives to the pipeline. Setting contexts up gives it nothing, and neither does
anything that happens to the store. -/
def Action.input? {κ : Type} : Action κ → Option Pipeline.Input
  | .event c => some (.event c.readings.steady c.event c.data)
  | .cleanUp _ => some .finish
  | .setUp _ | .outside _ => none

namespace Router

variable {σ ρ κ : Type} [ContextStore σ] [RegistryPublisher ρ]

/-- What is decided about an event, once the store has been seen to. -/
def decision (c : Call) (r : Router σ ρ) : Decision :=
  let ready := (r.prepare c.readings.setUp).2.catchUp
  (ready.pipeline.step c.readings.steady c.event c.data).1

/-- The decisions of a router about the events among its actions, each with the state of the
pipeline when the event has been handled. -/
def course (change : κ → σ → σ) : Router σ ρ → List (Action κ) → List (Decision × Pipeline)
  | _, [] => []
  | r, action :: rest =>
    let later := course change (r.act change action) rest
    match action with
    | .event c => (r.decision c, (r.handle c).pipeline) :: later
    | .setUp _ | .cleanUp _ | .outside _ => later

theorem decision_eq (c : Call) (r : Router σ ρ) :
    r.decision c = (r.pipeline.step c.readings.steady c.event c.data).1 := by
  unfold decision
  simp only [pipeline_catchUp, pipeline_prepare]

/-- An action changes the pipeline by what it gives to it. -/
theorem pipeline_act (change : κ → σ → σ) (action : Action κ) (r : Router σ ρ) :
    (r.act change action).pipeline = action.input?.elim r.pipeline r.pipeline.after := by
  cases action with
  | setUp time => exact pipeline_setUp time r
  | event c => exact pipeline_handleEvent c.readings c.event c.data r
  | cleanUp time => exact pipeline_cleanUp time r
  | outside k => rfl

/-- A router decides as its pipeline does by itself. -/
theorem course_eq (change : κ → σ → σ) (actions : List (Action κ)) (r : Router σ ρ) :
    r.course change actions = r.pipeline.course (actions.filterMap Action.input?) := by
  induction actions generalizing r with
  | nil => rfl
  | cons action rest ih =>
    have hafter := pipeline_act change action r
    unfold course
    cases action with
    | setUp time | outside k =>
      simp only [Action.input?, Option.elim_none] at hafter
      simp [Action.input?, ih, hafter, List.filterMap_cons]
    | event c =>
      simp only [Action.input?, Option.elim_some, Pipeline.after] at hafter
      have hhandle : (r.handle c).pipeline = _ := hafter
      simp [Action.input?, ih, hafter, hhandle, decision_eq, Pipeline.course]
    | cleanUp time =>
      simp only [Action.input?, Option.elim_some] at hafter
      simp [Action.input?, ih, hafter, Pipeline.course]

end Router

/-- Two routers of one configuration and lineage that are given the same events at the same readings
of the steady clock decide the same about each of them, and have the same variants on record and
the same turn in progress when it has been handled. Their stores can be of different kinds and do
what they like, and so can what gets the contexts, what publishes the bundle and what happens
between the events. -/
theorem course_independent_of_store {σ τ ρ π κ ι : Type} [ContextStore σ] [ContextStore τ]
    [RegistryPublisher ρ] [RegistryPublisher π] (change : κ → σ → σ) (change' : ι → τ → τ)
    (store : σ) (store' : τ) (l : Lineage) (config : RouterConfig) (known : List String)
    (identity identity' : Identity) (resolver : Resolver σ) (resolver' : Resolver τ)
    (publisher : Option ρ) (publisher' : Option π) (actions : List (Action κ))
    (actions' : List (Action ι))
    (hsame : actions.filterMap Action.input? = actions'.filterMap Action.input?) :
    let r : Router σ ρ := .create store l config identity known resolver publisher
    let s : Router τ π := .create store' l config identity' known resolver' publisher'
    r.course change actions = s.course change' actions' := by
  intro r s
  have hpipeline : r.pipeline = s.pipeline := rfl
  calc r.course change actions
      = r.pipeline.course (actions.filterMap Action.input?) := Router.course_eq change actions r
    _ = s.pipeline.course (actions'.filterMap Action.input?) := by rw [hpipeline, hsame]
    _ = s.course change' actions' := (Router.course_eq change' actions' s).symm

namespace Sample

/-- The first event finds a store that cannot be reached, and the last one a store that has lost
its connection and refuses what it is given. -/
def disturbed : List (Action MemoryStore.Switch) := [
  .outside (.failConnect true), .event prompt, .outside (.failConnect false), .setUp 5,
  .outside .disconnect, .outside (.failCreate true), .event tool,
  .outside (.reject "amplifier.OrchestratorEvent"), .event finish]

def undisturbed : List (Action Empty) := [.event prompt, .event tool, .event finish]

end Sample

/-- One store holds fewer records than the other, and the decisions are the same. -/
theorem same_course_in_trouble :
    let r : Router MemoryStore CountingPublisher :=
      .create { tag := "recorder" } Sample.lineage Sample.config Sample.identity [] .createNew none
    let s : Router MemoryStore CountingPublisher :=
      .create { tag := "other" } Sample.lineage Sample.config Sample.identity []
        (.fixed ⟨7, 8, none, none⟩) Sample.publisher
    let change (k : MemoryStore.Switch) (store : MemoryStore) := store.switch k
    let change' (k : Empty) (_ : MemoryStore) := k.elim
    Sample.disturbed.filterMap Action.input? = Sample.undisturbed.filterMap Action.input? ∧
      r.course change Sample.disturbed = s.course change' Sample.undisturbed ∧
      (r.run change Sample.disturbed).outbox.store.delivered.length = 5 ∧
      (s.run change' Sample.undisturbed).outbox.store.delivered.length = 7 :=
  ⟨rfl, course_independent_of_store _ _ _ _ Sample.lineage Sample.config [] Sample.identity
      Sample.identity .createNew (.fixed ⟨7, 8, none, none⟩) none Sample.publisher Sample.disturbed
      Sample.undisturbed rfl,
    by decide +kernel, by decide +kernel⟩

end SessionRecorder
