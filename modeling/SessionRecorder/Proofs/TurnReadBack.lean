import SessionRecorder.Proofs.EventReadBack
import SessionRecorder.Proofs.Msgpack.Canonical
import SessionRecorder.Turn.Accumulator

/-!
What is recorded about a turn can be read again. A reader of the items finds the prompt, and in the
answer the whole text, the calls of tools with their outcomes, the measures, the agent and the
reason of the end: what was left out because it was not there, or was empty, is read as such. This
takes texts whose lengths have fields. Main statement: `flushed_turn_read_back`.
-/

namespace SessionRecorder

open Msgpack Text

/-! ## Reading values -/

namespace Msgpack

/-- The value under a tag of a map. -/
def field? (tag : UInt64) : Msgpack → Option Msgpack
  | .map entries => (entries.find? (·.1.asUInt? == some tag)).map (·.2)
  | _ => none

def asText? : Msgpack → Option String
  | .str s => some s
  | _ => none

def asFlag? : Msgpack → Option Bool
  | .bool b => some b
  | _ => none

def asItems? : Msgpack → Option (List Msgpack)
  | .array items => some items
  | _ => none

/-- The text under a tag of a map. -/
def text? (tag : UInt64) (v : Msgpack) : Option String := (v.field? tag).bind asText?

/-- The whole number under a tag of a map. -/
def count? (tag : UInt64) (v : Msgpack) : Option UInt64 := (v.field? tag).bind asUInt?

theorem field?_toMap (p : Payload) (tag : UInt64) : p.toMap.field? tag = p.get? tag := by
  rw [Payload.toMap, field?, Payload.get?]
  induction p.entries with
  | nil => rfl
  | cons e rest ih =>
    obtain ⟨own, value⟩ := e
    by_cases htag : tag = own
    · subst htag
      simp [Assoc.find?_cons_self]
    · rw [Assoc.find?_cons_of_ne htag, ← ih, List.map_cons, List.find?_cons_of_neg]
      simpa using Ne.symm htag

theorem field?_ofFields {fields : List (UInt64 × Option Msgpack)}
    (hascending : (fields.map (·.1)).Pairwise fun a b => compare a b = .lt) (tag : UInt64) :
    (Payload.ofFields fields).toMap.field? tag = (fields.lookup tag).join :=
  (field?_toMap _ tag).trans (Payload.get?_ofFields hascending tag)

theorem Within.mono {m n : Nat} {v : Msgpack} (h : v.Within m) (hle : m ≤ n) : v.Within n :=
  ⟨h.1, Nat.le_trans h.2 hle⟩

end Msgpack

/-! ## Calls of tools -/

/-- A call of a tool as it is read from a record. -/
structure ReadCall where
  id : Option String
  name : String
  input : String
  status : String
  /-- The text that the call left, and whether it is an error. -/
  outcome : Option (String × Bool)
deriving DecidableEq

namespace ReadCall

def outcome? (v : Msgpack) : Option (String × Bool) := do
  let text ← v.text? 1
  let isError ← (v.field? 2).bind asFlag?
  some (text, isError)

def ofValue? (v : Msgpack) : Option ReadCall := do
  let name ← v.text? ToolCall.nameTag
  let input ← v.text? ToolCall.inputTag
  let status ← v.text? ToolCall.statusTag
  some {
    id := v.text? ToolCall.idTag
    name, input, status
    outcome := (v.field? ToolCall.outcomeTag).bind outcome? }

end ReadCall

namespace ToolCall

/-- What is to be read about a call: its error comes before its result. -/
def told (t : ToolCall) : ReadCall where
  id := t.id
  name := t.name
  input := t.input
  status := if t.done = false then "pending" else if t.error.isSome then "error" else "complete"
  outcome :=
    match t.error with
    | some error => some (error, true)
    | none => t.result.map (·, false)

/-- The texts of a call. -/
def written (t : ToolCall) : List String :=
  [t.name, t.input] ++ t.id.toList ++ t.result.toList ++ t.error.toList

theorem read_payload (t : ToolCall) : ReadCall.ofValue? t.payload.toMap = some t.told := by
  have hfield (tag : UInt64) : t.payload.toMap.field? tag = _ :=
    field?_ofFields (by simp only [List.map_cons, List.map_nil]; decide) tag
  have hid : t.payload.toMap.text? idTag = t.id := by
    rw [text?, show _ = t.id.map Msgpack.str from hfield idTag]
    cases t.id <;> rfl
  have hname : t.payload.toMap.text? nameTag = some t.name :=
    congrArg (·.bind asText?) (hfield nameTag)
  have hinput : t.payload.toMap.text? inputTag = some t.input :=
    congrArg (·.bind asText?) (hfield inputTag)
  have hstatus : t.payload.toMap.text? statusTag = some t.told.status := by
    rw [text?, show _ = some (Msgpack.str t.status) from hfield statusTag]
    unfold status told
    cases t.done <;> rfl
  have houtcome : (t.payload.toMap.field? outcomeTag).bind ReadCall.outcome? = t.told.outcome := by
    rw [show _ = t.outcome.map fun o => outcomeValue o.1 o.2 from hfield outcomeTag]
    unfold outcome told
    cases t.error <;> cases t.result <;> rfl
  unfold ReadCall.ofValue?
  rw [hid, hname, hinput, hstatus, houtcome]
  rfl

theorem length_status_lt (t : ToolCall) : (utf8 t.status).length < 2 ^ 32 := by
  unfold status
  split
  · split <;> decide
  · decide

theorem within_outcomeValue {text : String} (htext : (utf8 text).length < 2 ^ 32)
    (isError : Bool) : (outcomeValue text isError).Within 5 := by
  refine within_map_iff.2 ⟨by simp, ?_⟩
  simp only [List.forall_mem_cons, List.not_mem_nil, false_implies, implies_true, and_true]
  exact ⟨⟨within_int _ (by decide), within_str htext (by decide)⟩, within_int _ (by decide),
    rfl, by simp [cost]⟩

theorem within_payload {t : ToolCall} (h : ∀ text ∈ t.written, (utf8 text).length < 2 ^ 32) :
    t.payload.toMap.Within 7 := by
  refine Payload.within_ofFields (by simp only [List.map_cons, List.map_nil]; decide)
    (by simp only [List.length_cons, List.length_nil]; decide) (by decide) ?_
  intro tag value hmem
  simp only [List.mem_cons, Prod.mk.injEq, List.not_mem_nil, or_false, Option.some.injEq] at hmem
  obtain ⟨_, hvalue⟩ | ⟨_, rfl⟩ | ⟨_, rfl⟩ | ⟨_, rfl⟩ | ⟨_, hvalue⟩ := hmem
  · obtain ⟨id, hid, rfl⟩ := Option.map_eq_some_iff.1 hvalue.symm
    exact within_str (h id (by simp [written, hid])) (by decide)
  · exact within_str (h _ (by simp [written])) (by decide)
  · exact within_str (h _ (by simp [written])) (by decide)
  · exact within_str t.length_status_lt (by decide)
  · obtain ⟨⟨text, isError⟩, houtcome, rfl⟩ := Option.map_eq_some_iff.1 hvalue.symm
    refine within_outcomeValue (h text ?_) isError
    unfold outcome at houtcome
    split at houtcome
    · simp_all [written]
    · simp_all [written]
    · cases houtcome

end ToolCall

/-! ## Measures -/

namespace TurnMetrics

def ofValue? (v : Msgpack) : Option TurnMetrics := do
  let input ← v.count? inputTag
  let cacheRead ← v.count? cacheReadTag
  let cacheCreation ← v.count? cacheCreationTag
  let totalInput ← v.count? totalInputTag
  let output ← v.count? outputTag
  let total ← v.count? totalTag
  let reasoning ← v.count? reasoningTag
  some {
    input, cacheRead, cacheCreation, totalInput, output, total, reasoning
    model := (v.text? modelTag).getD ""
    provider := (v.text? providerTag).getD ""
    duration := v.count? durationTag }

/-- The texts of measures. -/
def written (m : TurnMetrics) : List String := [m.model, m.provider]

/-- A text that is left out where it is empty is read as the empty one. -/
theorem getD_textValue (s : String) : ((textValue s).bind asText?).getD "" = s := by
  unfold textValue
  split
  · rename_i hempty
    exact hempty.symm
  · rfl

theorem read_payload (m : TurnMetrics) : ofValue? m.payload.toMap = some m := by
  have hfield (tag : UInt64) : m.payload.toMap.field? tag = _ :=
    field?_ofFields (by simp only [List.map_cons, List.map_nil]; decide) tag
  have hcount {tag n : UInt64} (h : m.payload.toMap.field? tag = some (uint n)) :
      m.payload.toMap.count? tag = some n := by
    rw [count?, h, Option.bind_some, asUInt?_uint]
  have hduration : m.payload.toMap.count? durationTag = m.duration := by
    rw [count?, show _ = m.duration.map Msgpack.uint from hfield durationTag]
    cases m.duration <;> simp
  have hmodel : (m.payload.toMap.text? modelTag).getD "" = m.model := by
    rw [text?, show _ = textValue m.model from hfield modelTag, getD_textValue]
  have hprovider : (m.payload.toMap.text? providerTag).getD "" = m.provider := by
    rw [text?, show _ = textValue m.provider from hfield providerTag, getD_textValue]
  unfold ofValue?
  rw [hcount (hfield inputTag), hcount (hfield cacheReadTag), hcount (hfield cacheCreationTag),
    hcount (hfield totalInputTag), hcount (hfield outputTag), hcount (hfield totalTag),
    hcount (hfield reasoningTag), hduration, hmodel, hprovider]
  rfl

theorem within_textValue {s : String} {value : Msgpack} (hs : (utf8 s).length < 2 ^ 32)
    (h : textValue s = some value) : value.Within 3 := by
  unfold textValue at h
  split at h
  · cases h
  · obtain rfl := Option.some.inj h
    exact within_str hs (by decide)

theorem within_payload {m : TurnMetrics} (h : ∀ text ∈ m.written, (utf8 text).length < 2 ^ 32) :
    m.payload.toMap.Within 5 := by
  refine Payload.within_ofFields (by simp only [List.map_cons, List.map_nil]; decide)
    (by simp only [List.length_cons, List.length_nil]; decide) (by decide) ?_
  intro tag value hmem
  have hcount (n : UInt64) : (uint n).Within 3 := within_int _ (by decide)
  simp only [List.mem_cons, Prod.mk.injEq, List.not_mem_nil, or_false, Option.some.injEq] at hmem
  obtain ⟨_, rfl⟩ | ⟨_, rfl⟩ | ⟨_, rfl⟩ | ⟨_, rfl⟩ | ⟨_, rfl⟩ | ⟨_, rfl⟩ | ⟨_, rfl⟩ | ⟨_, hvalue⟩ |
    ⟨_, hvalue⟩ | ⟨_, hvalue⟩ := hmem
  any_goals exact hcount _
  · obtain ⟨duration, _, rfl⟩ := Option.map_eq_some_iff.1 hvalue.symm
    exact hcount duration
  · exact within_textValue (h _ (by simp [written])) hvalue.symm
  · exact within_textValue (h _ (by simp [written])) hvalue.symm

end TurnMetrics

/-! ## Answers -/

/-- An answer as it is read from a record. -/
structure ReadAnswer where
  text : String
  calls : List ReadCall
  metrics : Option TurnMetrics
  agent : Option String
  finishReason : Option String
deriving DecidableEq

/-- The calls in the items of an array, if each of them is one. -/
def ReadCall.ofItems? : List Msgpack → Option (List ReadCall)
  | [] => some []
  | item :: rest => do
    let call ← ofValue? item
    let others ← ofItems? rest
    some (call :: others)

def ReadAnswer.ofValue? (v : Msgpack) : Option ReadAnswer := do
  let calls ← (v.field? Turn.toolsTag).elim (some []) fun tools =>
    tools.asItems?.bind ReadCall.ofItems?
  let metrics ← (v.field? Turn.metricsTag).elim (some none) fun metrics =>
    (TurnMetrics.ofValue? metrics).map some
  some {
    text := (v.text? Turn.textTag).getD ""
    calls, metrics
    agent := v.text? Turn.agentTag
    finishReason := v.text? Turn.finishReasonTag }

namespace Turn

/-- What is to be read about the answer of a turn. -/
def told (t : Turn) : ReadAnswer where
  text := String.join t.texts
  calls := t.tools.map (·.told)
  metrics := t.metrics
  agent := t.agent
  finishReason := t.finishReason

/-- The texts of a turn as they are recorded. -/
def written (t : Turn) : List String :=
  t.prompt.toList ++ [String.join t.texts] ++ t.tools.flatMap (·.written) ++
    t.metrics.toList.flatMap (·.written) ++ t.agent.toList ++ t.finishReason.toList

/-- Whether the lengths of a turn have fields. -/
def Short (t : Turn) : Prop :=
  (∀ text ∈ t.written, (utf8 text).length < 2 ^ 32) ∧ t.tools.length < 2 ^ 32

theorem read_tools (tools : List ToolCall) :
    ReadCall.ofItems? (tools.map (·.payload.toMap)) = some (tools.map (·.told)) := by
  induction tools with
  | nil => rfl
  | cons t rest ih =>
    rw [List.map_cons, ReadCall.ofItems?, t.read_payload, ih]
    rfl

theorem read_answerPart (t : Turn) : ReadAnswer.ofValue? t.answerPart = some t.told := by
  have hfield (tag : UInt64) : t.answerPart.field? tag = _ :=
    field?_ofFields (by simp only [List.map_cons, List.map_nil]; decide) tag
  have htext : (t.answerPart.text? textTag).getD "" = String.join t.texts := by
    rw [text?, show _ = TurnMetrics.textValue (String.join t.texts) from hfield textTag,
      TurnMetrics.getD_textValue]
  have htools : (t.answerPart.field? toolsTag).elim (some []) (fun tools =>
      tools.asItems?.bind ReadCall.ofItems?) = some t.told.calls := by
    rw [show _ = if t.tools.isEmpty then none else
      some (Msgpack.array (t.tools.map (·.payload.toMap))) from hfield toolsTag]
    cases hempty : t.tools.isEmpty with
    | true => simp [told, List.isEmpty_iff.1 hempty]
    | false => exact read_tools t.tools
  have hmetrics : (t.answerPart.field? metricsTag).elim (some none) (fun metrics =>
      (TurnMetrics.ofValue? metrics).map some) = some t.metrics := by
    rw [show _ = t.metrics.map (·.payload.toMap) from hfield metricsTag]
    cases t.metrics with
    | none => rfl
    | some m => exact congrArg (Option.map some) m.read_payload
  have hstring {tag : UInt64} {s : Option String}
      (h : t.answerPart.field? tag = s.map Msgpack.str) : t.answerPart.text? tag = s := by
    rw [text?, h]
    cases s <;> rfl
  unfold ReadAnswer.ofValue?
  rw [htools, hmetrics, htext, hstring (hfield agentTag), hstring (hfield finishReasonTag)]
  rfl

theorem within_answerPart {t : Turn} (h : t.Short) : t.answerPart.Within 11 := by
  obtain ⟨hwritten, htools⟩ := h
  refine Payload.within_ofFields (by simp only [List.map_cons, List.map_nil]; decide)
    (by simp only [List.length_cons, List.length_nil]; decide) (by decide) ?_
  intro tag value hmem
  have hstring {s : String} (hs : s ∈ t.written) : (str s).Within 9 :=
    within_str (hwritten s hs) (by decide)
  simp only [List.mem_cons, Prod.mk.injEq, List.not_mem_nil, or_false] at hmem
  obtain ⟨_, hvalue⟩ | ⟨_, hvalue⟩ | ⟨_, hvalue⟩ | ⟨_, hvalue⟩ | ⟨_, hvalue⟩ := hmem
  · exact (TurnMetrics.within_textValue (hwritten _ (by simp [written])) hvalue.symm).mono
      (by decide)
  · split at hvalue
    · cases hvalue
    · obtain rfl := Option.some.inj hvalue
      refine within_array (by rwa [List.length_map]) (List.forall_mem_map.2 fun call hcall => ?_)
      refine ToolCall.within_payload fun text htext => hwritten text ?_
      have hcalls : text ∈ t.tools.flatMap (·.written) := List.mem_flatMap.2 ⟨call, hcall, htext⟩
      simp only [written, List.mem_append, hcalls, true_or, or_true]
  · obtain ⟨m, hm, rfl⟩ := Option.map_eq_some_iff.1 hvalue.symm
    refine (TurnMetrics.within_payload fun text htext => hwritten text ?_).mono (by decide)
    have hmetrics : text ∈ t.metrics.toList.flatMap (·.written) := by simpa [hm] using htext
    simp only [written, List.mem_append, hmetrics, true_or, or_true]
  · obtain ⟨agent, hagent, rfl⟩ := Option.map_eq_some_iff.1 hvalue.symm
    exact hstring (by simp [written, hagent])
  · obtain ⟨reason, hreason, rfl⟩ := Option.map_eq_some_iff.1 hvalue.symm
    exact hstring (by simp [written, hreason])

end Turn

/-! ## Items -/

/-- An item of a turn as it is read from its octets. -/
inductive ReadItem where
  | userInput (prompt : String)
  | assistantTurn (answer : ReadAnswer)
deriving DecidableEq

namespace ReadItem

def ofPayload? (p : Payload) : Option ReadItem :=
  match (p.get? Item.kindTag).bind asText? with
  | some "user_input" =>
    ((p.get? Item.inputTag).bind (·.text? Turn.promptTextTag)).map userInput
  | some "assistant_turn" =>
    ((p.get? Item.turnTag).bind ReadAnswer.ofValue?).map assistantTurn
  | _ => none

/-- The item at the start of the octets. -/
def ofBytes? (bs : Bytes) : Option ReadItem := (Payload.deserialize bs).toOption.bind ofPayload?

end ReadItem

namespace Item

variable {kind session label : String} {time : Int64} {tag : UInt64} {part : Msgpack}
  (hascending : [kindTag, statusTag, timestampTag, idTag, tag].Pairwise
    fun a b => compare a b = .lt)

include hascending

theorem get?_complete_single (wanted : UInt64) :
    (complete kind session label time [(tag, some part)]).get? wanted =
      (List.lookup wanted [(kindTag, some (.str kind)), (statusTag, some (.str "complete")),
        (timestampTag, some (.sint time)), (idTag, some (.str (id session label time))),
        (tag, some part)]).join :=
  Payload.get?_ofFields (by simpa using hascending) wanted

theorem readable_complete_single (hkind : (utf8 kind).length < 2 ^ 32) (hpart : part.Within 11) :
    (complete kind session label time [(tag, some part)]).Readable := by
  have hwithin : (complete kind session label time [(tag, some part)]).toMap.Within 13 := by
    refine Payload.within_ofFields (by simpa using hascending)
      (by simp only [List.length_append, List.length_cons, List.length_nil]; decide)
      (by decide) ?_
    intro t value hmem
    simp only [List.cons_append, List.nil_append, List.mem_cons, Prod.mk.injEq, List.not_mem_nil,
      or_false, Option.some.injEq] at hmem
    obtain ⟨_, rfl⟩ | ⟨_, rfl⟩ | ⟨_, rfl⟩ | ⟨_, rfl⟩ | ⟨_, rfl⟩ := hmem
    · exact within_str hkind (by decide)
    · exact within_str (by decide) (by decide)
    · exact within_int _ (by decide)
    · exact within_str (length_utf8_id_lt ..) (by decide)
    · exact hpart
  exact ⟨hwithin.1, Nat.le_trans hwithin.2 (by decide)⟩

/-- From its octets an item of one part is read as it is. -/
theorem ofBytes?_complete_single (hkind : (utf8 kind).length < 2 ^ 32)
    (hpart : part.Within 11) :
    ReadItem.ofBytes? (complete kind session label time [(tag, some part)]).serialize =
      ReadItem.ofPayload? (complete kind session label time [(tag, some part)]) := by
  have hread := Payload.deserialize_serialize_append
    (@readable_complete_single kind session label time tag part hascending hkind hpart) []
  rw [List.append_nil] at hread
  rw [ReadItem.ofBytes?, hread]
  rfl

end Item

namespace Turn

variable {a : Accumulator} {t : Turn}

/-- The item of a prompt. -/
def promptItem (session : String) (time : Int64) (prompt : String) : Payload :=
  Item.complete "user_input" session "user_input" time [(Item.inputTag, some (promptPart prompt))]

/-- The item of an answer. -/
def answerItem (session : String) (time : Int64) (t : Turn) : Payload :=
  Item.complete "assistant_turn" session "assistant_turn" time [
    (Item.turnTag, some t.answerPart)]

theorem kind_promptItem (session : String) (time : Int64) (prompt : String) :
    (promptItem session time prompt).get? Item.kindTag = some (.str "user_input") :=
  Item.get?_complete_single (by decide) _

theorem kind_answerItem (session : String) (time : Int64) (t : Turn) :
    (answerItem session time t).get? Item.kindTag = some (.str "assistant_turn") :=
  Item.get?_complete_single (by decide) _

theorem within_promptPart {prompt : String} (h : (utf8 prompt).length < 2 ^ 32) :
    (promptPart prompt).Within 11 := by
  refine within_map_iff.2 ⟨by simp, ?_⟩
  simp only [List.forall_mem_cons, List.not_mem_nil, false_implies, implies_true, and_true]
  exact ⟨within_int _ (by decide), within_str h (by decide)⟩

theorem read_promptItem (session : String) (time : Int64) {prompt : String}
    (h : (utf8 prompt).length < 2 ^ 32) :
    ReadItem.ofBytes? (promptItem session time prompt).serialize = some (.userInput prompt) := by
  have hpart : (promptItem session time prompt).get? Item.inputTag = some (promptPart prompt) :=
    Item.get?_complete_single (by decide) _
  refine (Item.ofBytes?_complete_single (by decide) (by decide) (within_promptPart h)).trans ?_
  change ReadItem.ofPayload? (promptItem session time prompt) = _
  rw [ReadItem.ofPayload?, kind_promptItem, hpart]
  rfl

theorem read_answerItem (session : String) (time : Int64) (h : t.Short) :
    ReadItem.ofBytes? (answerItem session time t).serialize = some (.assistantTurn t.told) := by
  have hpart : (answerItem session time t).get? Item.turnTag = some t.answerPart :=
    Item.get?_complete_single (by decide) _
  refine (Item.ofBytes?_complete_single (by decide) (by decide) (within_answerPart h)).trans ?_
  change ReadItem.ofPayload? (answerItem session time t) = _
  rw [ReadItem.ofPayload?, kind_answerItem, hpart]
  exact congrArg (Option.map ReadItem.assistantTurn) t.read_answerPart

theorem hasAnswer_iff : t.hasAnswer = true ↔ t.texts ≠ [] ∨ t.tools ≠ [] := by
  simp [hasAnswer]

theorem hasData_of_flush (h : a.flush.1 = some t) : t.hasData = true := by
  unfold Accumulator.flush at h
  split at h
  · obtain rfl := Option.some.inj h
    assumption
  · cases h

theorem items_eq (session : String) (time : Int64) (t : Turn) :
    t.items session time = t.prompt.toList.map (promptItem session time) ++
      if t.texts ≠ [] ∨ t.tools ≠ [] then [answerItem session time t] else [] := by
  unfold items
  simp only [← hasAnswer_iff]
  cases t.prompt <;> cases t.hasAnswer <;> rfl

end Turn

/-! ## Turns that were flushed -/

/-- A turn that was flushed has one item or two: what the user asked if there was a prompt, then
what the assistant answered if there was a text or a call. From their octets the prompt and the
whole answer are read. -/
theorem flushed_turn_read_back {a : Accumulator} {t : Turn} (h : a.flush.1 = some t)
    (session : String) (time : Int64) :
    (1 ≤ (t.items session time).length ∧ (t.items session time).length ≤ 2) ∧
    (t.items session time).map (·.get? Item.kindTag) =
      (if t.prompt.isSome then [some (.str "user_input")] else []) ++
        (if t.texts ≠ [] ∨ t.tools ≠ [] then [some (.str "assistant_turn")] else []) ∧
    (t.Short →
      (t.items session time).map (fun item => ReadItem.ofBytes? item.serialize) =
        t.prompt.toList.map (fun prompt => some (.userInput prompt)) ++
          if t.texts ≠ [] ∨ t.tools ≠ [] then [some (.assistantTurn t.told)] else []) := by
  have hdata : t.prompt.isSome = true ∨ t.texts ≠ [] ∨ t.tools ≠ [] := by
    have hdata := Turn.hasData_of_flush h
    rwa [Turn.hasData, Bool.or_eq_true, Turn.hasAnswer_iff] at hdata
  rw [Turn.items_eq]
  refine ⟨?_, ?_, fun hshort => ?_⟩
  · cases hprompt : t.prompt with
    | none =>
      have hanswer := hdata.resolve_left (by simp [hprompt])
      simp [hanswer]
    | some prompt => split <;> simp
  · cases t.prompt <;> split <;> simp [Turn.kind_promptItem, Turn.kind_answerItem]
  · rw [List.map_append, List.map_map]
    refine congrArg₂ (· ++ ·) ?_ ?_
    · refine List.map_congr_left fun prompt hprompt => ?_
      have hwritten : prompt ∈ t.written := by
        simp only [Turn.written, List.mem_append, hprompt, true_or]
      rw [Function.comp_apply, Turn.read_promptItem session time (hshort.1 prompt hwritten)]
    · split
      · exact congrArg (fun read => [read]) (Turn.read_answerItem session time hshort)
      · rfl

/-- A turn with texts, a call that left an error as well as a result, one that is pending, and
measures without a model. -/
theorem full_turn_read_back :
    let usage : Usage := { output := 2 }
    let signals : List (Nat × Signal) := [(0, .promptSubmitted "hi"), (10, .requestSent),
      (20, .textBlock "hel"), (30, .toolStarted "bash" "ls" (some "c1")), (40, .textBlock "lo"),
      (50, .toolFinished "bash" (some "c1") (some "part") (some "denied")),
      (60, .toolStarted "read" "" none),
      (70, .responseReceived (some usage) none (some "acme") (some "stop"))]
    let a : Accumulator :=
      signals.foldl (fun a s => a.apply s.1 s.2) (.ofAgent (some "explorer"))
    ∃ t, a.flush.1 = some t ∧ t.Short ∧
      (t.items "root" 1000).map (fun item => ReadItem.ofBytes? item.serialize) = [
        some (.userInput "hi"),
        some (.assistantTurn {
          text := "hello"
          calls := [
            { id := some "c1", name := "bash", input := "ls", status := "error",
              outcome := some ("denied", true) },
            { id := none, name := "read", input := "", status := "pending", outcome := none }]
          metrics := some (.ofUsage usage none (some "acme") (some 60))
          agent := some "explorer"
          finishReason := some "stop" })] := by
  intro usage signals a
  have hshort : Turn.Short { a.current with agent := a.agent } := by
    unfold Turn.Short
    decide
  exact ⟨_, rfl, hshort, (flushed_turn_read_back (a := a) rfl "root" 1000).2.2 hshort⟩

end SessionRecorder
