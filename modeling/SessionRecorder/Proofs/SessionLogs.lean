import SessionRecorder.Proofs.Recovery

/-!
What the two contexts of a session hold, told by its calls alone. A cycle is what lies
between two ends of a cycle; the decision about a call depends on the calls before it
in its cycle. Main statement: `session_logs`.
-/

namespace SessionRecorder

/-- Calls, each of them with those that come before it in its cycle. -/
def Call.inCycles (before : List Call) : List Call → List (List Call × Call)
  | [] => []
  | c :: rest =>
    (before, c) :: inCycles (if c.event = Pipeline.cycleEnd then [] else before ++ [c]) rest

namespace Cycle

/-- The signals that calls give, at the readings of the steady clock. -/
def signals (calls : List Call) : List (Nat × Signal) :=
  calls.filterMap fun c => (Signal.ofEvent? c.event c.data).map (c.readings.steady, ·)

/-- The turn of an agent that calls tell of. -/
def turn (agent : Option String) (calls : List Call) : Accumulator :=
  (signals calls).foldl (fun a (now, signal) => a.apply now signal) (.ofAgent agent)

/-- Whether execution has ended, and no prompt has come since. -/
def hasEnded (calls : List Call) : Bool :=
  (signals calls).foldl (fun ended signal =>
    match signal.2 with
    | .promptSubmitted _ => false
    | .executionEnded => true
    | _ => ended) false

/-- What is known about variants after calls. -/
def seen (start : Deduplicator) (calls : List Call) : Deduplicator :=
  calls.foldl (fun d c => (d.accept c.event).2) start

/-- Whether the event of a call is recorded: its variant is accepted, and it is not a
straggler. -/
def records (start : Deduplicator) (before : List Call) (c : Call) : Bool :=
  ((seen start before).accept c.event).1 &&
    !(hasEnded before && Text.startsWith c.event "llm:")

/-- The items of the turn of a cycle, recorded at a time; none if the turn has no data. -/
def items (l : Lineage) (before : List Call) (time : Int64) : List Payload :=
  let turn := (turn l.agent before).current
  if turn.hasData then { turn with agent := l.agent }.items l.sessionId time else []

end Cycle

/-! ## Names that no filter stops -/

theorem Signal.plain {event : String} (h : event ∈ Signal.events) :
    Catalog.hasVariants event = false ∧ Text.startsWith event "llm:" = false ∧
      event ≠ Pipeline.cycleEnd := by
  have hall : ∀ event ∈ Signal.events, Catalog.hasVariants event = false ∧
      Text.startsWith event "llm:" = false ∧ event ≠ Pipeline.cycleEnd := by decide
  exact hall event h

theorem Signal.ofEvent?_eq_none {event : String} (h : event ∉ Signal.events) (data : Json) :
    Signal.ofEvent? event data = none := by
  simp only [Signal.events, List.mem_cons, List.not_mem_nil, or_false, not_or] at h
  obtain ⟨hprompt, hblock, hpre, hpost, herror, hrequest, hresponse, hend⟩ := h
  unfold Signal.ofEvent?
  split <;> first | contradiction | rfl

theorem Pipeline.plain_cycleEnd : Catalog.hasVariants cycleEnd = false ∧
    Text.startsWith cycleEnd "llm:" = false ∧ cycleEnd ∉ Signal.events := by decide

namespace Cycle

variable {start : Deduplicator} {agent : Option String}

theorem signals_append (before : List Call) (c : Call) :
    signals (before ++ [c]) = signals before ++
      ((Signal.ofEvent? c.event c.data).map (c.readings.steady, ·)).toList := by
  simp only [signals, List.filterMap_append, List.filterMap_cons, List.filterMap_nil]
  split <;> rename_i h <;> rw [h] <;> rfl

/-- The turn after one more call is what the recorder makes of it. -/
theorem turn_append (agent : Option String) (before : List Call) (c : Call) :
    turn agent (before ++ [c]) =
      Pipeline.observe c.readings.steady c.event c.data (turn agent before) := by
  simp only [turn, signals_append, List.foldl_append, Pipeline.observe, Accumulator.onEvent]
  by_cases hmem : c.event ∈ Signal.events
  · simp only [List.contains_iff_mem.2 hmem, ↓reduceIte]
    cases Signal.ofEvent? c.event c.data <;> rfl
  · have hcontains : Signal.events.contains c.event = false := by simpa using hmem
    simp only [hcontains, Signal.ofEvent?_eq_none hmem, Option.map_none, Option.toList_none,
      List.foldl_nil, Bool.false_eq_true, ↓reduceIte]

theorem turn_agent (calls : List Call) : (turn agent calls).agent = agent := by
  have hfold (signals : List (Nat × Signal)) (a : Accumulator) :
      (signals.foldl (fun a (now, signal) => a.apply now signal) a).agent = a.agent := by
    induction signals generalizing a with
    | nil => rfl
    | cons s rest ih =>
      rw [List.foldl_cons, ih]
      obtain ⟨now, signal⟩ := s
      cases signal with
      | responseReceived usage => cases usage <;> rfl
      | _ => rfl
  exact hfold _ _

/-- The recorder knows that execution has ended. -/
theorem turn_ended (calls : List Call) : (turn agent calls).ended = hasEnded calls := by
  have hfold (signals : List (Nat × Signal)) (a : Accumulator) (ended : Bool)
      (h : a.ended = ended) :
      (signals.foldl (fun a (now, signal) => a.apply now signal) a).ended =
        signals.foldl (fun ended signal =>
          match signal.2 with
          | .promptSubmitted _ => false
          | .executionEnded => true
          | _ => ended) ended := by
    induction signals generalizing a ended with
    | nil => exact h
    | cons s rest ih =>
      obtain ⟨now, signal⟩ := s
      refine ih _ _ ?_
      cases signal with
      | promptSubmitted _ => rfl
      | executionEnded => rfl
      | responseReceived usage => cases usage <;> exact h
      | _ => exact h
  exact hfold _ _ _ rfl

theorem seen_append (start : Deduplicator) (before : List Call) (c : Call) :
    seen start (before ++ [c]) = ((seen start before).accept c.event).2 := by
  simp only [seen, List.foldl_append, List.foldl_cons, List.foldl_nil]

/-- A new cycle begins with what is known about variants at the start. -/
theorem reset_seen (hstart : start.reset = start) (calls : List Call) :
    (seen start calls).reset = start := by
  have hfold (d : Deduplicator) (hd : d.reset = start) : (seen d calls).reset = start := by
    induction calls generalizing d with
    | nil => exact hd
    | cons c rest ih => exact ih _ ((Deduplicator.reset_accept c.event d).trans hd)
  exact hfold start hstart

/-- The state of the recorder's decisions after calls of one cycle. -/
def after (start : Deduplicator) (agent : Option String) (calls : List Call) : Pipeline :=
  ⟨seen start calls, turn agent calls⟩

/-- The turn that is finished by a cycle, if it has data. -/
def finished (agent : Option String) (calls : List Call) : Option Turn :=
  if (turn agent calls).current.hasData then some { (turn agent calls).current with agent }
  else none

theorem flush_turn (calls : List Call) :
    (turn agent calls).flush = (finished agent calls, .ofAgent agent) := by
  simp only [Accumulator.flush, finished, turn_agent]

theorem items_finished (l : Lineage) (calls : List Call) (time : Int64) :
    (finished l.agent calls).toList.flatMap (·.items l.sessionId time) = items l calls time := by
  unfold finished items
  split <;> simp [*]

/-- What is not recorded neither gives a signal nor ends a cycle. -/
theorem plain_of_not_records {before : List Call} {c : Call}
    (h : records start before c = false) :
    c.event ∉ Signal.events ∧ c.event ≠ Pipeline.cycleEnd := by
  have hrecords (hplain : Catalog.hasVariants c.event = false)
      (hllm : Text.startsWith c.event "llm:" = false) : records start before c = true := by
    simp only [records, Deduplicator.accept_plain hplain, hllm, Bool.and_false, Bool.not_false,
      Bool.and_true]
  constructor
  · intro hsignal
    obtain ⟨hplain, hllm, _⟩ := Signal.plain hsignal
    rw [hrecords hplain hllm] at h
    cases h
  · intro hend
    obtain ⟨hplain, hllm, _⟩ := Pipeline.plain_cycleEnd
    rw [hrecords (hend ▸ hplain) (hend ▸ hllm)] at h
    cases h

/-- A call is decided about as its cycle says, and the state behind it is that of the cycle. -/
theorem step_after (hstart : start.reset = start) (before : List Call) (c : Call) :
    (after start agent before).step c.readings.steady c.event c.data =
      (if records start before c then
        .recorded (if c.event = Pipeline.cycleEnd then finished agent before else none)
      else .dropped,
      after start agent (if c.event = Pipeline.cycleEnd then [] else before ++ [c])) := by
  have hturn := turn_append agent before c
  have hseen := seen_append start before c
  have hdropped : (!((seen start before).accept c.event).1 ||
      (turn agent before).isStraggler c.event) = !records start before c := by
    rw [records, Accumulator.isStraggler, turn_ended, Bool.not_and, Bool.not_not]
  simp only [Pipeline.step, after, hdropped]
  cases hrecords : records start before c with
  | false =>
    obtain ⟨hsignal, hend⟩ := plain_of_not_records hrecords
    have hcontains : Signal.events.contains c.event = false := by simpa using hsignal
    simp only [Pipeline.observe, hcontains, Bool.false_eq_true, ↓reduceIte] at hturn
    simp only [hend, hturn, hseen, Bool.not_false, Bool.false_eq_true, ↓reduceIte]
  | true =>
    by_cases hend : c.event = Pipeline.cycleEnd
    · have hobserve : Pipeline.observe c.readings.steady c.event c.data (turn agent before) =
          turn agent before := by
        rw [hend]
        rfl
      have hreset : ((seen start before).accept c.event).2.reset = start :=
        (Deduplicator.reset_accept c.event _).trans (reset_seen hstart before)
      rw [hobserve, hreset, flush_turn]
      simp only [hend, Bool.not_true, Bool.false_eq_true, ↓reduceIte]
      rfl
    · simp only [hend, hturn, hseen, Bool.not_true, Bool.false_eq_true, ↓reduceIte]

variable {contexts : SessionContexts} {l : Lineage}

/-- Of what the decision about a call asks for, the record of the event is for one context. -/
theorem decision_events (hne : contexts.turns ≠ contexts.events) (shape : RecordShape) (c : Call)
    (finished : Option Turn) :
    ((Decision.recorded finished).deliveries contexts shape l c).filter
        (·.context = contexts.events) =
      [(Record.ofEvent shape c.event c.data l c.readings.event).into contexts.events] := by
  rw [Decision.deliveries, List.filter_cons]
  simp only [Record.into, decide_true, ↓reduceIte, List.cons.injEq, true_and,
    List.filter_eq_nil_iff, List.mem_map]
  rintro d ⟨item, _, rfl⟩
  simpa using hne

/-- The items of the turn are for the other one. -/
theorem decision_turns (hne : contexts.turns ≠ contexts.events) (shape : RecordShape) (c : Call)
    (finished : Option Turn) :
    ((Decision.recorded finished).deliveries contexts shape l c).filter
        (·.context = contexts.turns) =
      (finished.toList.flatMap (·.items l.sessionId c.readings.turn)).map fun item =>
        Record.into contexts.turns ⟨.conversationItem, item⟩ := by
  have hevent : (Record.ofEvent shape c.event c.data l c.readings.event |>.into
      contexts.events).context ≠ contexts.turns := hne.symm
  rw [Decision.deliveries, List.filter_cons]
  simp only [hevent, decide_false, Bool.false_eq_true, ↓reduceIte, List.filter_eq_self,
    List.mem_map]
  rintro d ⟨item, _, rfl⟩
  simp [Record.into]

/-- Of what calls have recorded, the events are in one context. -/
theorem deliveries_events (hstart : start.reset = start) (hne : contexts.turns ≠ contexts.events)
    (shape : RecordShape) (before calls : List Call) :
    ((after start l.agent before).deliveries contexts shape l calls).filter
        (·.context = contexts.events) =
      ((Call.inCycles before calls).filter fun p => records start p.1 p.2).map fun p =>
        (Record.ofEvent shape p.2.event p.2.data l p.2.readings.event).into contexts.events := by
  induction calls generalizing before with
  | nil => rfl
  | cons c rest ih =>
    simp only [Pipeline.deliveries, Call.inCycles, step_after hstart, List.filter_append, ih,
      List.filter_cons]
    cases records start before c with
    | false => rfl
    | true =>
      simp only [↓reduceIte, decision_events hne]
      rfl

/-- The turns are in the other one. -/
theorem deliveries_turns (hstart : start.reset = start) (hne : contexts.turns ≠ contexts.events)
    (shape : RecordShape) (before calls : List Call) :
    ((after start l.agent before).deliveries contexts shape l calls).filter
        (·.context = contexts.turns) =
      ((Call.inCycles before calls).filter (·.2.event = Pipeline.cycleEnd)).flatMap fun p =>
        (items l p.1 p.2.readings.turn).map fun item =>
          Record.into contexts.turns ⟨.conversationItem, item⟩ := by
  induction calls generalizing before with
  | nil => rfl
  | cons c rest ih =>
    simp only [Pipeline.deliveries, Call.inCycles, step_after hstart, List.filter_append, ih,
      List.filter_cons]
    cases hrecords : records start before c with
    | false =>
      obtain ⟨_, hend⟩ := plain_of_not_records hrecords
      simp only [hend, decide_false, Bool.false_eq_true, ↓reduceIte]
      rfl
    | true =>
      simp only [↓reduceIte, decision_turns hne]
      by_cases hend : c.event = Pipeline.cycleEnd
      · simp only [hend, decide_true, ↓reduceIte, items_finished, List.flatMap_cons]
      · simp only [hend, decide_false, Bool.false_eq_true, ↓reduceIte]
        rfl

end Cycle

theorem Pipeline.context_deliveries (contexts : SessionContexts) (shape : RecordShape) (l : Lineage)
    (p : Pipeline) (calls : List Call) {d : Delivery}
    (hd : d ∈ p.deliveries contexts shape l calls) :
    d.context = contexts.turns ∨ d.context = contexts.events := by
  induction calls generalizing p with
  | nil => cases hd
  | cons c rest ih =>
    simp only [Pipeline.deliveries, List.mem_append] at hd
    rcases hd with hd | hd
    · cases hdecision : (p.step c.readings.steady c.event c.data).1 with
      | dropped =>
        rw [hdecision] at hd
        cases hd
      | recorded finished =>
        rw [hdecision, Decision.deliveries, List.mem_cons, List.mem_map] at hd
        rcases hd with rfl | ⟨item, _, rfl⟩
        · exact .inr rfl
        · exact .inl rfl
    · exact ih _ hd

theorem MemoryStore.delivered_turnsIn (context : UInt64) (s : MemoryStore) :
    (s.turnsIn context).map (·.delivery) = s.delivered.filter (·.context = context) := by
  rw [turnsIn, delivered, List.filter_map]
  rfl

/-- All that a new store without faults holds after the calls of a session. The one
context has the record that opens it, and then one record for each event that is
recorded; the other one has the record that opens it, and then the items of the turn
of each cycle. -/
theorem session_logs {ρ : Type} [RegistryPublisher ρ] (tag : String) (l : Lineage)
    (config : RouterConfig) (identity : Identity) (known : List String) (publisher : Option ρ)
    (first : Call) (rest : List Call) :
    let start : Router MemoryStore ρ :=
      .create { tag } l config identity known .createNew publisher
    let r := start.handleAll (first :: rest)
    let contexts : SessionContexts := ⟨1, 2, none, none⟩
    let log (context : UInt64) := (r.outbox.store.turnsIn context).map (·.delivery)
    let calls := Call.inCycles [] (first :: rest)
    let recorded := calls.filter fun (before, c) =>
      Cycle.records (.ofMode config.dedupMode known) before c
    let ends := calls.filter fun (_, c) => c.event = Pipeline.cycleEnd
    r.contexts = some contexts ∧
      log 2 = (start.opening contexts "Events" first.readings.setUp).into 2 ::
        recorded.map (fun (_, c) =>
          (Record.ofEvent config.shape c.event c.data l c.readings.event).into 2) ∧
      log 1 = (start.opening contexts "Turns" first.readings.setUp).into 1 ::
        ends.flatMap (fun (before, c) =>
          (Cycle.items l before c.readings.turn).map fun item =>
            Record.into 1 ⟨.conversationItem, item⟩) ∧
      (∀ t ∈ r.outbox.store.turns, t.delivery.context = 1 ∨ t.delivery.context = 2) ∧
      r.outbox.buffer.records = [] := by
  intro start r contexts log calls recorded ends
  let a := Audited.run MemoryStore.meet ⟨start, {}⟩ ((first :: rest).map .event)
  have hr : a.router = r := by rw [Audited.router_run, Router.run_calls]
  obtain ⟨hcontexts, hstored, hempty⟩ := Audited.delivered_calls (a := ⟨start, {}⟩)
    (first :: rest) (List.cons_ne_nil first rest) ⟨rfl, rfl, rfl, fun _ => rfl⟩ rfl
    ⟨rfl, rfl, rfl, rfl⟩ rfl rfl
  have hdelivered : r.outbox.store.delivered = start.openings contexts first.readings.setUp ++
      start.pipeline.deliveries contexts config.shape l (first :: rest) := by
    rw [← hr]
    exact hstored
  have hlog (context : UInt64) : log context =
      (start.openings contexts first.readings.setUp).filter (·.context = context) ++
        (start.pipeline.deliveries contexts config.shape l (first :: rest)).filter
          (·.context = context) := by
    simp only [log, MemoryStore.delivered_turnsIn, hdelivered, List.filter_append]
  have hne : contexts.turns ≠ contexts.events := by decide
  have hevents := Cycle.deliveries_events (l := l)
    (Deduplicator.reset_ofMode config.dedupMode known) hne config.shape [] (first :: rest)
  have hturns := Cycle.deliveries_turns (l := l)
    (Deduplicator.reset_ofMode config.dedupMode known) hne config.shape [] (first :: rest)
  refine ⟨hr ▸ hcontexts, ?_, ?_, ?_, hr ▸ hempty⟩
  · rw [hlog]
    exact congrArg (_ :: ·) hevents
  · rw [hlog]
    exact congrArg (_ :: ·) hturns
  · intro t ht
    have hd : t.delivery ∈ r.outbox.store.delivered := List.mem_map_of_mem ht
    rw [hdelivered, List.mem_append] at hd
    rcases hd with hd | hd
    · simp only [Router.openings, List.mem_cons, List.not_mem_nil, or_false] at hd
      rcases hd with hd | hd <;> rw [hd]
      · exact .inl rfl
      · exact .inr rfl
    · exact Pipeline.context_deliveries contexts _ _ _ _ hd

end SessionRecorder
