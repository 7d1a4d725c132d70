import SessionRecorder.Proofs.Conformance
import SessionRecorder.Record.ContextMetadata
import SessionRecorder.Turn.Accumulator

/-!
Whether the items of turns and the metadata of contexts are as the published bundle describes
them, level by level. The metadata always is. The items are, but for the measures of an answer:
the bundle requires a model and a provider there, and an empty name is left out
(`metrics_admits_iff`). Main statement: `items_described_iff`.
-/

namespace SessionRecorder

/-! ## Turns -/

theorem prompt_admits (prompt : String) :
    (Shape.map [Bundle.required 1 "text" .string]).admits (Turn.promptPart prompt) = true := rfl

theorem outcome_admits (text : String) (isError : Bool) :
    (Shape.map Bundle.toolOutcome).admits (ToolCall.outcomeValue text isError) = true := rfl

theorem toolCall_admits (t : ToolCall) :
    (Shape.map Bundle.toolCall).admits t.payload.toMap = true := by
  rw [ToolCall.payload, admits_ofFields (by decide) rfl]
  simp [Bundle.toolCall, Bundle.required, Bundle.optional, outcome_admits]

/-- A name is written unless it is empty, and may be left out only where it is optional. -/
theorem textValue_stands_iff (tag t : UInt64) (name s : String) (optional : Bool) :
    (TaggedField.mk tag name .string optional).Stands (t, TurnMetrics.textValue s) ↔
      s = "" → optional = true := by
  by_cases h : s = "" <;> simp [TurnMetrics.textValue, h]

theorem metrics_admits_iff (m : TurnMetrics) :
    (Shape.map Bundle.metrics).admits m.payload.toMap = true ↔ m.model ≠ "" ∧ m.provider ≠ "" := by
  rw [TurnMetrics.payload, admits_ofFields (by decide) rfl]
  simp [Bundle.metrics, Bundle.required, Bundle.optional, textValue_stands_iff]

/-- The measures of a turn, if it has any, name the model and the provider. -/
def Turn.Named (t : Turn) : Prop :=
  ∀ m, t.metrics = some m → m.model ≠ "" ∧ m.provider ≠ ""

theorem answer_admits_iff (t : Turn) :
    (Shape.map Bundle.assistantTurn).admits t.answerPart = true ↔ t.Named := by
  rw [Turn.answerPart, admits_ofFields (by decide) rfl]
  cases htools : t.tools with
  | nil =>
    simp [Bundle.assistantTurn, Bundle.optional, textValue_stands_iff, metrics_admits_iff,
      Turn.Named]
  | cons tool rest =>
    simp [Bundle.assistantTurn, Bundle.optional, textValue_stands_iff, metrics_admits_iff,
      toolCall_admits, Turn.Named]

theorem items_admits_iff (session : String) (time : Int64) (t : Turn) :
    (∀ item ∈ t.items session time, Bundle.describes ⟨.conversationItem, item⟩ = true) ↔
      (t.hasData = true → 0 ≤ time) ∧ (t.hasAnswer = true → t.Named) := by
  have hprompt (prompt : String) : Bundle.describes ⟨.conversationItem, Item.complete "user_input"
      session "user_input" time [(Item.inputTag, some (Turn.promptPart prompt))]⟩ = true ↔
        0 ≤ time := by
    have hitem := item_admits_iff "user_input" session "user_input" time
      (some (Turn.promptPart prompt)) none none none none
    rw [Bundle.describes_item]
    refine hitem.trans ?_
    simp [prompt_admits]
  have hanswer : Bundle.describes ⟨.conversationItem, Item.complete "assistant_turn" session
      "assistant_turn" time [(Item.turnTag, some t.answerPart)]⟩ = true ↔ 0 ≤ time ∧ t.Named := by
    have hitem := item_admits_iff "assistant_turn" session "assistant_turn" time none
      (some t.answerPart) none none none
    rw [Bundle.describes_item]
    refine hitem.trans ?_
    simp [answer_admits_iff]
  cases hanswered : t.hasAnswer with
  | false =>
    cases hasked : t.prompt with
    | none => simp [Turn.items, Turn.hasData, hanswered, hasked]
    | some prompt => simp [Turn.items, Turn.hasData, hanswered, hasked, hprompt]
  | true =>
    cases hasked : t.prompt with
    | none => simp [Turn.items, Turn.hasData, hanswered, hasked, hanswer]
    | some prompt => simp [Turn.items, Turn.hasData, hanswered, hasked, hprompt, hanswer]

/-! ## Metadata -/

/-- A field without a value can be put anywhere. -/
theorem Payload.ofFields_leftOut (n : Nat) (tag : UInt64)
    (fields : List (UInt64 × Option Msgpack)) :
    ofFields (fields.take n ++ (tag, none) :: fields.drop n) = ofFields fields := by
  unfold ofFields
  rw [List.filterMap_append, List.filterMap_cons_none rfl, ← List.filterMap_append,
    List.take_append_drop]

/-- The provenance of a context has all declared fields but the id of a span, the fifth. -/
theorem provenance_admits_iff (i : Identity) (o : Origin) :
    (Shape.map Bundle.provenance).admits (Provenance.payload i o).toMap = true ↔
      0 ≤ o.capturedAt := by
  rw [Provenance.payload, ← Payload.ofFields_leftOut 4 11, admits_ofFields (by decide) rfl]
  simp [Bundle.provenance, Bundle.optional]

theorem contextMetadata_admits_iff (m : ContextMetadata) (l : Lineage) (i : Identity)
    (time : Int64) :
    (Shape.map Bundle.contextMetadata).admits (m.part l i time) = true ↔ 0 ≤ time := by
  rw [ContextMetadata.part, ← Payload.ofFields_some, admits_ofFields (by decide) rfl]
  simp [Bundle.contextMetadata, Bundle.required, Bundle.optional, provenance_admits_iff,
    ContextMetadata.origin]

theorem metadata_described_iff (m : ContextMetadata) (l : Lineage) (i : Identity) (time : Int64) :
    Bundle.describes ⟨.conversationItem, m.item l i time⟩ = true ↔ 0 ≤ time := by
  have hitem := item_admits_iff "system" l.sessionId
    s!"context_metadata_{Text.lower m.label}" time none none
    (some (Item.systemPart .info s!"Context: {m.label}" s!"Amplifier session {l.sessionId}")) none
    (some (m.part l i time))
  rw [Bundle.describes_item]
  refine hitem.trans ?_
  simp [systemPart_admits, contextMetadata_admits_iff]

/-! ## Turns that events lead to -/

/-- A response that reports its tokens names its model and its provider. -/
def Signal.Names : Signal → Prop
  | .responseReceived (some usage) model provider _ =>
    (model.or usage.model).getD "" ≠ "" ∧ provider.getD "" ≠ ""
  | _ => True

namespace Accumulator

/-- The states that events lead to whose responses name their model and provider. -/
inductive Reached (agent : Option String) : Accumulator → Prop where
  | fresh : Reached agent (.ofAgent agent)
  | event {a : Accumulator} (now : Nat) (event : String) (data : Json) (h : Reached agent a)
    (hnames : ∀ signal, Signal.ofEvent? event data = some signal → signal.Names) :
    Reached agent (a.onEvent now event data).2
  | flush {a : Accumulator} (h : Reached agent a) : Reached agent a.flush.2

variable {agent : Option String} {a : Accumulator}

theorem named_apply (now : Nat) {signal : Signal} (hnames : signal.Names)
    (h : a.current.Named) : (a.apply now signal).current.Named := by
  cases signal with
  | responseReceived usage model provider finishReason =>
    cases usage with
    | none => exact h
    | some usage =>
      intro m hm
      obtain rfl := Option.some.inj hm
      exact hnames
  | _ => exact h

theorem Reached.named (h : a.Reached agent) : a.current.Named := by
  have hfresh (agent : Option String) : (ofAgent agent).current.Named := by
    intro m hm
    cases hm
  induction h with
  | fresh => exact hfresh agent
  | event now event data _ hnames ih =>
    unfold onEvent
    cases hsignal : Signal.ofEvent? event data with
    | none => exact ih
    | some signal => exact named_apply now (hnames signal hsignal) ih
  | flush => exact hfresh _

/-- Where every response that reports its tokens names its model and its provider, the items of
a turn are as the bundle describes them. -/
theorem Reached.described (h : a.Reached agent) {t : Turn} (ht : a.flush.1 = some t)
    (session : String) {time : Int64} (htime : 0 ≤ time) :
    ∀ item ∈ t.items session time, Bundle.describes ⟨.conversationItem, item⟩ = true := by
  refine (items_admits_iff session time t).2 ⟨fun _ => htime, fun _ => ?_⟩
  simp only [Accumulator.flush] at ht
  split at ht
  · obtain rfl := Option.some.inj ht
    exact h.named
  · cases ht

end Accumulator

/-- The bundle describes the items of a turn just if their time is not negative and an answer
with measures names its model and its provider. It describes the metadata of a context just if
the time is not negative. -/
theorem items_described_iff (t : Turn) (session : String) (m : ContextMetadata) (l : Lineage)
    (i : Identity) (time : Int64) :
    ((∀ item ∈ t.items session time, Bundle.describes ⟨.conversationItem, item⟩ = true) ↔
      (t.hasData = true → 0 ≤ time) ∧ (t.hasAnswer = true → t.Named)) ∧
    (Bundle.describes ⟨.conversationItem, m.item l i time⟩ = true ↔ 0 ≤ time) :=
  ⟨items_admits_iff session time t, metadata_described_iff m l i time⟩

namespace Sample

/-- A response that reports its tokens, but not its model. -/
def response : Json := .object [("usage", .object [("input_tokens", .int (.ofUInt8 1))])]

/-- The turn of that response and of a tool that it calls. -/
def nameless : Option Turn :=
  (((Accumulator.ofAgent none).onEvent 0 "provider:response" response).2.onEvent 0 "tool:pre"
    (.object [("tool_name", .string "grep")])).2.flush.1

end Sample

/-- The answer of this turn has measures without the names that the bundle requires. -/
theorem nameless_undescribed : (Sample.nameless.map fun t =>
    (t.items "session" 0).map fun item => Bundle.describes ⟨.conversationItem, item⟩) =
      some [false] := by
  decide +kernel

end SessionRecorder
