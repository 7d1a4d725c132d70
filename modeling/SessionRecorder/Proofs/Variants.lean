import Mathlib.Data.List.Induction
import SessionRecorder.Proofs.Outages

/-!
What the marks of a cycle stand for. A variant that is suppressed has a mark above it, and each
mark was set in the same cycle by a variant that was accepted. That one was recorded, unless it
came as a straggler: marks are set before stragglers are dropped (`mark_without_record`).
Main statement: `suppressed_below_accepted`.
-/

namespace SessionRecorder

namespace Deduplicator

/-- The mark of a family in this cycle, if there is one. -/
def mark? (base : String) : Deduplicator → Option Nat
  | .precomputed _ => none
  | .highWaterMark seen => Assoc.find? base seen

/-- Whether marks decide about variants. -/
def usesMarks : Deduplicator → Bool
  | .precomputed _ => false
  | .highWaterMark _ => true

@[simp] theorem mark?_reset (base : String) (d : Deduplicator) : d.reset.mark? base = none := by
  cases d <;> rfl

@[simp] theorem usesMarks_reset (d : Deduplicator) : d.reset.usesMarks = d.usesMarks := by
  cases d <;> rfl

@[simp] theorem usesMarks_accept (event : String) (d : Deduplicator) :
    (d.accept event).2.usesMarks = d.usesMarks := by
  have hreset := congrArg usesMarks (reset_accept event d)
  simpa using hreset

/-- What is suppressed has a mark above it. -/
theorem mark_of_suppressed {event : String} {d : Deduplicator} (hmarks : d.usesMarks = true)
    (h : (d.accept event).1 = false) :
    ∃ high, d.mark? (Catalog.base event) = some high ∧ Catalog.rank event ≤ high := by
  cases d with
  | precomputed best => cases hmarks
  | highWaterMark seen =>
    cases hvariants : Catalog.hasVariants event with
    | false =>
      rw [accept_plain hvariants] at h
      cases h
    | true =>
      simp only [accept, hvariants, ↓reduceIte] at h
      split at h
      · rename_i high hfind
        split at h
        · rename_i hrank
          exact ⟨high, hfind, hrank⟩
        · cases h
      · cases h

/-- A mark was there before, or is that of the event, which is accepted. -/
theorem mark?_accept {event base : String} {d : Deduplicator} {high : Nat}
    (h : (d.accept event).2.mark? base = some high) :
    d.mark? base = some high ∨
      (d.accept event).1 = true ∧ Catalog.base event = base ∧ Catalog.rank event = high := by
  cases hvariants : Catalog.hasVariants event with
  | false =>
    rw [accept_plain hvariants] at h
    exact .inl h
  | true =>
    cases d with
    | precomputed best =>
      simp only [accept, hvariants, ↓reduceIte] at h
      split at h <;> cases h
    | highWaterMark seen =>
      -- The mark that is set now is found under the event's own family, the others as before.
      have hset (h : Assoc.find? base
            (Assoc.insert (Catalog.base event) (Catalog.rank event) seen) = some high) :
          Assoc.find? base seen = some high ∨
            Catalog.base event = base ∧ Catalog.rank event = high := by
        by_cases hbase : Catalog.base event = base
        · subst hbase
          rw [Assoc.find?_insert_self] at h
          exact .inr ⟨rfl, Option.some.inj h⟩
        · rw [Assoc.find?_insert_of_ne hbase] at h
          exact .inl h
      simp only [accept, hvariants, ↓reduceIte] at h ⊢
      split at h
      · split at h
        · exact .inl h
        · rename_i hrank
          simp only [hrank, ↓reduceIte, true_and]
          exact hset h
      · simp only [true_and]
        exact hset h

end Deduplicator

namespace Pipeline

/-- The end of a cycle forgets its marks; what else comes is put to the deduplicator. -/
theorem dedup_step (now : Nat) (event : String) (data : Json) (p : Pipeline) :
    (p.step now event data).2.dedup =
      if event = cycleEnd then (p.dedup.accept event).2.reset else (p.dedup.accept event).2 := by
  by_cases hend : event = cycleEnd
  · obtain ⟨hplain, hllm, _⟩ := plain_cycleEnd
    subst hend
    simp [step, Deduplicator.accept_plain hplain, Accumulator.isStraggler, hllm]
  · simp only [step, hend, ↓reduceIte]
    split <;> rfl

/-- What is accepted and no straggler is recorded. -/
theorem step_recorded (now : Nat) (data : Json) {event : String} {p : Pipeline}
    (haccepted : (p.dedup.accept event).1 = true) (htimely : p.turns.isStraggler event = false) :
    ∃ finished, (p.step now event data).1 = .recorded finished := by
  simp only [step, haccepted, htimely, Bool.not_true, Bool.or_false, Bool.false_eq_true,
    ↓reduceIte]
  split
  · exact ⟨_, rfl⟩
  · exact ⟨_, rfl⟩

end Pipeline

namespace Audited

variable {σ ρ κ : Type} [ContextStore σ] {a : Audited σ ρ}

variable [RegistryPublisher ρ]

/-- No action but an event touches the marks. -/
theorem dedup_act (change : κ → σ → σ) (a : Audited σ ρ) (action : Action κ) :
    (a.act change action).router.pipeline.dedup =
      match action with
      | .event c => (a.router.pipeline.step c.readings.steady c.event c.data).2.dedup
      | _ => a.router.pipeline.dedup := by
  cases action with
  | setUp time => exact congrArg (·.dedup) (Router.pipeline_setUp time a.router)
  | event c => exact congrArg (·.dedup) (Router.pipeline_handleEvent _ _ _ a.router)
  | cleanUp time => exact congrArg (·.dedup) (Router.pipeline_cleanUp time a.router)
  | outside k => rfl

/-- In the cycle in which the actions end, this call came and was accepted. -/
structure Accepted (change : κ → σ → σ) (a : Audited σ ρ) (actions first : List (Action κ))
    (c : Call) (rest : List (Action κ)) : Prop where
  split : actions = first ++ .event c :: rest
  cycle : ∀ d, .event d ∈ rest → d.event ≠ Pipeline.cycleEnd
  accepted : ((a.run change first).router.pipeline.dedup.accept c.event).1 = true

/-- One more action of the same cycle. -/
theorem Accepted.append {change : κ → σ → σ} {actions first rest : List (Action κ)} {c : Call}
    (h : a.Accepted change actions first c rest) {action : Action κ}
    (hcycle : ∀ d, action = .event d → d.event ≠ Pipeline.cycleEnd) :
    a.Accepted change (actions ++ [action]) first c (rest ++ [action]) := by
  refine ⟨by simp [h.split], ?_, h.accepted⟩
  intro d hd
  rcases List.mem_append.1 hd with hd | hd
  · exact h.cycle d hd
  · exact hcycle d (List.mem_singleton.1 hd).symm

/-- Every mark was set in its cycle by a variant of that rank. -/
theorem accepted_of_mark (change : κ → σ → σ)
    (hstart : ∀ base, a.router.pipeline.dedup.mark? base = none) (actions : List (Action κ))
    {base : String} {high : Nat}
    (h : (a.run change actions).router.pipeline.dedup.mark? base = some high) :
    ∃ first c rest, a.Accepted change actions first c rest ∧
      Catalog.base c.event = base ∧ Catalog.rank c.event = high := by
  induction actions using List.reverseRecOn with
  | nil =>
    rw [show a.run change [] = a from rfl, hstart] at h
    cases h
  | append_singleton actions action ih =>
    have hlater (hold : (a.run change actions).router.pipeline.dedup.mark? base = some high)
        (hcycle : ∀ d, action = .event d → d.event ≠ Pipeline.cycleEnd) :
        ∃ first c rest, a.Accepted change (actions ++ [action]) first c rest ∧
          Catalog.base c.event = base ∧ Catalog.rank c.event = high := by
      obtain ⟨first, c, rest, haccepted, hvariant⟩ := ih hold
      exact ⟨first, c, rest ++ [action], haccepted.append hcycle, hvariant⟩
    rw [run_append, show (a.run change actions).run change [action] =
      (a.run change actions).act change action from rfl, dedup_act] at h
    cases action with
    | setUp time => exact hlater h fun d hd => (by cases hd)
    | cleanUp time => exact hlater h fun d hd => (by cases hd)
    | outside k => exact hlater h fun d hd => (by cases hd)
    | event c =>
      simp only [Pipeline.dedup_step] at h
      by_cases hend : c.event = Pipeline.cycleEnd
      · simp [hend] at h
      · rw [if_neg hend] at h
        rcases Deduplicator.mark?_accept h with hold | ⟨haccepted, hvariant⟩
        · refine hlater hold ?_
          rintro d ⟨⟩
          exact hend
        · exact ⟨actions, c, [], ⟨rfl, fun d hd => (by cases hd), haccepted⟩, hvariant⟩

theorem usesMarks_run (change : κ → σ → σ) (h : a.router.pipeline.dedup.usesMarks = true)
    (actions : List (Action κ)) :
    (a.run change actions).router.pipeline.dedup.usesMarks = true := by
  induction actions generalizing a with
  | nil => exact h
  | cons action rest ih =>
    refine ih ?_
    rw [dedup_act]
    cases action with
    | event c =>
      simp only [Pipeline.dedup_step]
      split <;> simpa using h
    | _ => exact h

/-- The call hands over the record of its event, behind those that open the contexts if it
is the call that opens them. -/
def HandsOver (contexts : SessionContexts) (c : Call) (a : Audited σ ρ) : Prop :=
  ∃ openings items, (a.handle c).ledger.submitted = a.ledger.submitted ++ openings ++
    (Record.ofEvent a.router.config.shape c.event c.data a.router.lineage
      c.readings.event).into contexts.events :: items

/-- What is accepted is handed over, unless it is a straggler. -/
theorem handsOver_of_accepted {contexts : SessionContexts} {c : Call}
    (hcontexts : (a.handle c).router.contexts = some contexts)
    (haccepted : (a.router.pipeline.dedup.accept c.event).1 = true)
    (htimely : a.router.pipeline.turns.isStraggler c.event = false) :
    a.HandsOver contexts c := by
  have hprepared : (a.prepare c.readings.setUp).router.contexts = some contexts := by
    cases hopen : (a.prepare c.readings.setUp).router.contexts with
    | none =>
      rw [(handle_unopened c hopen).1] at hcontexts
      cases hcontexts
    | some found =>
      rw [(steps_handle_of_prepared c a).contexts hopen] at hcontexts
      exact hcontexts
  obtain ⟨openings, hopenings⟩ := (steps_prepare c.readings.setUp a).submitted
  obtain ⟨finished, hdecision⟩ := Pipeline.step_recorded c.readings.steady c.data haccepted
    htimely
  refine ⟨openings, (finished.toList.flatMap
    (·.items a.router.lineage.sessionId c.readings.turn)).map fun item =>
      Record.into contexts.turns ⟨.conversationItem, item⟩, ?_⟩
  rw [submitted_handle_of_prepared c hprepared, hdecision, ← hopenings]
  rfl

end Audited

/-- Of a variant that is suppressed, one at least as rich came before it in the same cycle and
was accepted. If there were contexts by then, its record was handed over for that of the events,
unless it was a straggler. -/
theorem suppressed_below_accepted {σ ρ κ : Type} [ContextStore σ] [RegistryPublisher ρ]
    (change : κ → σ → σ) (store : σ) (l : Lineage) (config : RouterConfig) (identity : Identity)
    (known : List String) (resolver : Resolver σ) (publisher : Option ρ)
    (hmode : config.dedupMode = .highWaterMark) (actions : List (Action κ)) (c : Call) :
    let start : Audited σ ρ := ⟨.create store l config identity known resolver publisher, {}⟩
    let after (actions : List (Action κ)) := start.run change actions
    ((after actions).router.pipeline.dedup.accept c.event).1 = false →
      ∃ first richer rest, actions = first ++ .event richer :: rest ∧
        (∀ d, .event d ∈ rest → d.event ≠ Pipeline.cycleEnd) ∧
        Catalog.base richer.event = Catalog.base c.event ∧
        Catalog.rank c.event ≤ Catalog.rank richer.event ∧
        ((after first).router.pipeline.dedup.accept richer.event).1 = true ∧
        ∀ contexts, ((after first).handle richer).router.contexts = some contexts →
          (after first).router.pipeline.turns.isStraggler richer.event = true ∨
            (after first).HandsOver contexts richer := by
  intro start after hsuppressed
  have hfresh : start.router.pipeline.dedup = .highWaterMark [] := by
    simp only [start, Router.create, hmode]
    rfl
  have hmarks : start.router.pipeline.dedup.usesMarks = true := by rw [hfresh]; rfl
  have hnone (base : String) : start.router.pipeline.dedup.mark? base = none := by rw [hfresh]; rfl
  obtain ⟨high, hmark, hbelow⟩ := Deduplicator.mark_of_suppressed
    (Audited.usesMarks_run change hmarks actions) hsuppressed
  obtain ⟨first, richer, rest, haccepted, hbase, hrank⟩ :=
    Audited.accepted_of_mark change hnone actions hmark
  refine ⟨first, richer, rest, haccepted.split, haccepted.cycle, hbase, hrank ▸ hbelow,
    haccepted.accepted, ?_⟩
  intro contexts hcontexts
  cases htimely : (after first).router.pipeline.turns.isStraggler richer.event with
  | true => exact .inl rfl
  | false => exact .inr (Audited.handsOver_of_accepted hcontexts haccepted.accepted htimely)

namespace Sample

/-- The end of the execution, and a response of the model that comes after it. -/
def ended : Call := call 1 "execution:end" []

def late : Call := call 2 "llm:response:raw" []

/-- Variants of a request and of a response that are less rich than others. -/
def request : Call := call 3 "llm:request:raw" []

def poorRequest : Call := call 4 "llm:request:debug" []

def poorResponse : Call := call 5 "llm:response:debug" []

/-- The contexts are opened, and the store is lost before the request. -/
def withRequest : List (Action Fault) :=
  [.setUp 0, .event prompt, .outside .disconnect, .event request]

/-- The response comes late, and then the next prompt. -/
def withLateResponse : List (Action Fault) :=
  [.setUp 0, .event ended, .event late, .event prompt]

end Sample

/-- The poorer variant of a request is suppressed, for the richer one was handed over. -/
theorem poor_request_suppressed :
    let start : Audited MemoryStore CountingPublisher := ⟨.create { tag := "recorder" }
      Sample.lineage Sample.config Sample.identity [] .createNew Sample.publisher, {}⟩
    let after (actions : List (Action Fault)) := start.run MemoryStore.meet actions
    Sample.config.dedupMode = .highWaterMark ∧
      ((after Sample.withRequest).router.pipeline.dedup.accept Sample.poorRequest.event).1 = false ∧
      ∃ first richer rest, Sample.withRequest = first ++ .event richer :: rest ∧
        (∀ d, .event d ∈ rest → d.event ≠ Pipeline.cycleEnd) ∧
        Catalog.base richer.event = Catalog.base Sample.poorRequest.event ∧
        Catalog.rank Sample.poorRequest.event ≤ Catalog.rank richer.event ∧
        ((after first).router.pipeline.dedup.accept richer.event).1 = true ∧
        ∀ contexts, ((after first).handle richer).router.contexts = some contexts →
          (after first).router.pipeline.turns.isStraggler richer.event = true ∨
            (after first).HandsOver contexts richer := by
  have hsuppressed : (((Audited.run MemoryStore.meet ⟨.create { tag := "recorder" } Sample.lineage
      Sample.config Sample.identity [] .createNew Sample.publisher, {}⟩ Sample.withRequest :
        Audited MemoryStore CountingPublisher).router.pipeline.dedup.accept
          Sample.poorRequest.event).1) = false := by decide +kernel
  exact ⟨rfl, hsuppressed, suppressed_below_accepted MemoryStore.meet { tag := "recorder" }
    Sample.lineage Sample.config Sample.identity [] .createNew Sample.publisher rfl
    Sample.withRequest Sample.poorRequest hsuppressed⟩

/-- The poorer variant of a response is suppressed although the session has its contexts and
no variant of a response was ever handed over: the one that set the mark was a straggler. -/
theorem mark_without_record :
    let start : Audited MemoryStore CountingPublisher := ⟨.create { tag := "recorder" }
      Sample.lineage Sample.config Sample.identity [] .createNew Sample.publisher, {}⟩
    let a := start.run MemoryStore.meet Sample.withLateResponse
    let record (c : Call) := (Record.ofEvent Sample.config.shape c.event c.data Sample.lineage
      c.readings.event).into 2
    (start.run MemoryStore.meet (Sample.withLateResponse.take 1)).router.contexts =
        some ⟨1, 2, none, none⟩ ∧
      (a.router.pipeline.dedup.accept Sample.poorResponse.event).1 = false ∧
      a.ledger.submitted.drop 2 = [record Sample.ended, record Sample.prompt] ∧
      ∀ c ∈ [Sample.ended, Sample.prompt],
        Catalog.base c.event ≠ Catalog.base Sample.poorResponse.event := by
  decide +kernel

end SessionRecorder
