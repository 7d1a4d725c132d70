import Mathlib.Data.List.Forall2
import Mathlib.Data.List.ReduceOption
import SessionRecorder.Proofs.ToolCalls

/-!
The turns that are flushed from an accumulator, told by the events alone. A flush closes the
exchange of the events since the one before it, and what these events said and called stands in
its turn; a flush without a turn closes an exchange in which nothing was prompted, said or called.
Main statement: `nothing_lost_across_flushes`.
-/

namespace SessionRecorder

/-- An event as it comes to an accumulator. -/
structure Arrival where
  time : Nat
  event : String
  data : Json

namespace Arrival

/-- Whether the type of a block is that of a text block: missing, null or `text`. -/
def isTextType : Option Json → Bool
  | none => true
  | some .null => true
  | some (.string kind) => kind == "text"
  | _ => false

/-- The text of a block: the block itself, or the text in an object of no other type. -/
def blockText? : Json → Option String
  | .string text => some text
  | .object members =>
    if isTextType (Assoc.find? "type" members) then
      (Assoc.find? "text" members).bind Json.asString?
    else none
  | _ => none

/-- The text that an event delivers. -/
def text? (e : Arrival) : Option String :=
  if e.event = "content_block:end" ∧
      (e.data.get? "block_type").bind Json.asString? = some "text" then
    (e.data.get? "block").bind blockText?
  else none

/-- The call of a tool that an event starts. -/
def call? (e : Arrival) : Option ToolCall :=
  if e.event = "tool:pre" then
    some {
      name := Signal.toolName e.data
      input := Text.take Signal.inputLimit
        (((e.data.present? "tool_input").map Signal.render).getD "\x7b\x7d")
      id := Signal.callId? e.data }
  else none

/-- The prompt that an event submits. -/
def prompt? (e : Arrival) : Option String :=
  if e.event = "prompt:submit" then (e.data.present? "prompt").map Signal.render else none

end Arrival

/-- A use of an accumulator. -/
inductive Use where
  | event (e : Arrival)
  | flush

namespace Use

/-- The event of a use that is no flush. -/
def arrival? : Use → Option Arrival
  | event e => some e
  | flush => none

/-- The exchanges that uses close, and the one that they leave open, where `now` has come in the
open one before. -/
def exchanges (now : List Arrival) : List Use → List (List Arrival) × List Arrival
  | [] => ([], now)
  | .event e :: rest => exchanges (now ++ [e]) rest
  | .flush :: rest =>
    let (closed, last) := exchanges [] rest
    (now :: closed, last)

/-- No event is left out or moved. -/
theorem exchanges_flatten (now : List Arrival) (uses : List Use) :
    (exchanges now uses).1.flatten ++ (exchanges now uses).2 = now ++ uses.filterMap arrival? := by
  induction uses generalizing now with
  | nil => simp [exchanges]
  | cons use rest ih =>
    cases use with
    | event e => simp [exchanges, ih, arrival?]
    | flush => simp [exchanges, ih, List.filterMap_cons, arrival?]

end Use

/-- Whether a turn holds what the events of an exchange prompted last, said and called. -/
structure Turn.Holds (t : Turn) (exchange : List Arrival) : Prop where
  prompt : t.prompt = (exchange.filterMap Arrival.prompt?).getLast?
  texts : t.texts = exchange.filterMap Arrival.text?
  tools : t.tools.map ToolCall.opened = exchange.filterMap Arrival.call?

/-- Whether a flush with this answer has lost nothing of the exchange that it closes. -/
def Turn.Answers (exchange : List Arrival) : Option Turn → Prop
  | some t => t.Holds exchange
  | none => exchange.filterMap Arrival.prompt? = [] ∧ exchange.filterMap Arrival.text? = [] ∧
      exchange.filterMap Arrival.call? = []

/-! ## What an event adds -/

namespace Signal

/-- The text that a signal adds. -/
def text? : Signal → Option String
  | textBlock text => some text
  | _ => none

/-- The prompt that a signal sets. -/
def prompt? : Signal → Option String
  | promptSubmitted prompt => some prompt
  | _ => none

theorem join_optionalText (key : String) (data : Json) :
    (BlockContent.optionalText key data).toOption.join = (data.get? key).bind Json.asString? := by
  unfold BlockContent.optionalText
  cases data.get? key with
  | none => rfl
  | some value => cases value <;> rfl

theorem any_optionalText (key : String) (data : Json) :
    (BlockContent.optionalText key data).toOption.any (·.all (· == "text")) =
      Arrival.isTextType (data.get? key) := by
  unfold BlockContent.optionalText
  cases data.get? key with
  | none => rfl
  | some value => cases value <;> rfl

/-- The text that is read from a block is that of the block. -/
theorem text?_ofJson (block : Json) :
    (BlockContent.ofJson block).toOption.bind (·.text?) = Arrival.blockText? block := by
  cases block with
  | object members =>
    rw [Arrival.blockText?, ← Json.get?, ← Json.get?, ← any_optionalText, ← join_optionalText,
      BlockContent.ofJson]
    cases BlockContent.optionalText "type" (.object members) with
    | error e => rfl
    | ok kind =>
      cases BlockContent.optionalText "text" (.object members) with
      | error e => exact (ite_self none).symm
      | ok text => rfl
  | _ => rfl

/-- A reader that takes nothing from null need not be told that null counts as absent. -/
theorem bind_present? {read : Json → Option String} (h : read .null = none) (key : String)
    (data : Json) : (data.present? key).bind read = (data.get? key).bind read := by
  unfold Json.present?
  cases data.get? key with
  | none => rfl
  | some value =>
    cases value with
    | null => exact h.symm
    | _ => rfl

theorem blockText?_eq (data : Json) :
    blockText? data =
      if (data.get? "block_type").bind Json.asString? = some "text" then
        (data.get? "block").bind Arrival.blockText?
      else none := by
  unfold blockText?
  rw [← @bind_present? Arrival.blockText? rfl "block"]
  refine if_congr Iff.rfl (congrArg (Option.bind (data.present? "block")) ?_) rfl
  funext block
  rw [← text?_ofJson]
  cases BlockContent.ofJson block <;> rfl

/-- The signal of an event adds to a turn what the event delivers, starts and submits. -/
theorem ofEvent?_adds (e : Arrival) :
    (ofEvent? e.event e.data).bind text? = e.text? ∧
    (ofEvent? e.event e.data).bind started? = e.call? ∧
    (ofEvent? e.event e.data).bind prompt? = e.prompt? := by
  simp only [Arrival.text?, Arrival.call?, Arrival.prompt?]
  generalize e.event = event
  unfold ofEvent?
  split
  case h_1 => cases e.data.present? "prompt" <;> simp [text?, started?, prompt?]
  case h_5 =>
    -- A block that ends.
    rw [blockText?_eq]
    simp only [true_and]
    split
    · cases (e.data.get? "block").bind Arrival.blockText? <;> simp [text?, started?, prompt?]
    · simp
  case h_9 => simp_all
  all_goals simp [text?, started?, prompt?]

end Signal

namespace Accumulator

variable {a : Accumulator} {exchange : List Arrival}

theorem texts_apply (now : Nat) (s : Signal) (a : Accumulator) :
    (a.apply now s).current.texts = a.current.texts ++ s.text?.toList := by
  cases s with
  | responseReceived usage => cases usage <;> exact (List.append_nil _).symm
  | textBlock text => rfl
  | _ => exact (List.append_nil _).symm

theorem prompt_apply (now : Nat) (s : Signal) (a : Accumulator) :
    (a.apply now s).current.prompt = s.prompt?.or a.current.prompt := by
  cases s with
  | responseReceived usage => cases usage <;> rfl
  | _ => rfl

theorem holds_ofAgent (agent : Option String) : (ofAgent agent).current.Holds [] := ⟨rfl, rfl, rfl⟩

/-- The turn in progress holds the open exchange, also with one more event in it. -/
theorem holds_onEvent (h : a.current.Holds exchange) (e : Arrival) :
    (a.onEvent e.time e.event e.data).2.current.Holds (exchange ++ [e]) := by
  obtain ⟨htext, hcall, hprompt⟩ := Signal.ofEvent?_adds e
  have hadded {α : Type} (read : Arrival → Option α) :
      (exchange ++ [e]).filterMap read = exchange.filterMap read ++ (read e).toList := by
    rw [List.filterMap_append]
    cases hread : read e <;> simp [hread]
  unfold onEvent
  cases hsignal : Signal.ofEvent? e.event e.data with
  | none =>
    rw [hsignal] at htext hcall hprompt
    refine ⟨?_, ?_, ?_⟩
    · rw [hadded, ← hprompt, h.prompt]
      simp
    · rw [hadded, ← htext, h.texts]
      simp
    · rw [hadded, ← hcall, h.tools]
      simp
  | some s =>
    rw [hsignal, Option.bind_some] at htext hcall hprompt
    refine ⟨?_, ?_, ?_⟩
    · rw [hadded, ← hprompt, prompt_apply, h.prompt]
      cases s.prompt? <;> simp
    · rw [hadded, ← htext, texts_apply, h.texts]
    · rw [hadded, ← hcall, tools_apply, map_opened_track, h.tools]

/-- A flush answers the open exchange. -/
theorem answers_flush (h : a.current.Holds exchange) : Turn.Answers exchange a.flush.1 := by
  unfold flush
  cases hdata : a.current.hasData with
  | true => exact ⟨h.prompt, h.texts, h.tools⟩
  | false =>
    simp only [Turn.hasData, Turn.hasAnswer, Bool.or_eq_false_iff, Option.isSome_eq_false_iff,
      Option.isNone_iff_eq_none, Bool.not_eq_false', List.isEmpty_iff] at hdata
    obtain ⟨hprompt, htexts, htools⟩ := hdata
    refine ⟨?_, ?_, ?_⟩
    · rw [h.prompt] at hprompt
      exact List.getLast?_eq_none_iff.1 hprompt
    · rw [← h.texts, htexts]
    · rw [← h.tools, htools, List.map_nil]

/-- The answers of the flushes among uses, and the state after all of them. -/
def useAll : List Use → Accumulator → List (Option Turn) × Accumulator
  | [], a => ([], a)
  | .event e :: rest, a => useAll rest (a.onEvent e.time e.event e.data).2
  | .flush :: rest, a =>
    let (answers, last) := useAll rest a.flush.2
    (a.flush.1 :: answers, last)

/-- Each flush answers the exchange that it closes, and the turn in progress holds the one that
is open. -/
theorem useAll_holds (uses : List Use) (h : a.current.Holds exchange) :
    List.Forall₂ Turn.Answers (Use.exchanges exchange uses).1 (a.useAll uses).1 ∧
      (a.useAll uses).2.current.Holds (Use.exchanges exchange uses).2 := by
  induction uses generalizing a exchange with
  | nil => exact ⟨.nil, h⟩
  | cons use rest ih =>
    cases use with
    | event e => exact ih (holds_onEvent h e)
    | flush =>
      obtain ⟨hanswers, hlast⟩ := ih (holds_ofAgent a.agent)
      exact ⟨.cons (answers_flush h) hanswers, hlast⟩

end Accumulator

/-- What stands in the turns that were flushed, and is nothing where no turn was, is what the
events of the exchanges gave. -/
theorem flatMap_answers {α : Type} {part : Turn → List α} {given : Arrival → Option α}
    (hpart : ∀ {exchange : List Arrival} {turn : Turn}, turn.Holds exchange →
      part turn = exchange.filterMap given)
    (hnone : ∀ {exchange : List Arrival}, Turn.Answers exchange none →
      exchange.filterMap given = [])
    {exchanges : List (List Arrival)} {answers : List (Option Turn)}
    (h : List.Forall₂ Turn.Answers exchanges answers) :
    answers.reduceOption.flatMap part = exchanges.flatten.filterMap given := by
  induction h with
  | nil => rfl
  | @cons exchange answer _ _ hanswer _ ih =>
    rw [List.flatten_cons, List.filterMap_append, ← ih]
    cases answer with
    | none => rw [hnone hanswer, List.reduceOption_cons_of_none, List.nil_append]
    | some turn => rw [List.reduceOption_cons_of_some, List.flatMap_cons, hpart hanswer]

/-- The texts of the flushed turns and then of the turn in progress are the texts that the events
deliver, in order, and the calls are those that they start. Each flush answers the exchange that
it closes: its turn has the last prompt of that exchange, and where there is no turn, nothing
was prompted, said or called. A flush directly after another one gives no turn. -/
theorem nothing_lost_across_flushes (agent : Option String) (uses : List Use) :
    let answers := ((Accumulator.ofAgent agent).useAll uses).1
    let last := ((Accumulator.ofAgent agent).useAll uses).2
    let turns := answers.reduceOption
    let events := uses.filterMap Use.arrival?
    turns.flatMap (·.texts) ++ last.current.texts = events.filterMap Arrival.text? ∧
    (turns.flatMap (·.tools) ++ last.current.tools).map ToolCall.opened =
      events.filterMap Arrival.call? ∧
    List.Forall₂ Turn.Answers (Use.exchanges [] uses).1 answers ∧
    last.flush.2.flush.1 = none := by
  intro answers last turns events
  obtain ⟨hanswers, hlast⟩ := Accumulator.useAll_holds uses (Accumulator.holds_ofAgent agent)
  have hevents : (Use.exchanges [] uses).1.flatten ++ (Use.exchanges [] uses).2 = events :=
    Use.exchanges_flatten [] uses
  refine ⟨?_, ?_, hanswers, rfl⟩
  · have hturns : turns.flatMap (·.texts) = _ :=
      flatMap_answers (fun h => h.texts) (fun h => h.2.1) hanswers
    rw [hturns, hlast.texts, ← hevents, List.filterMap_append]
  · have hturns : turns.flatMap (fun t => t.tools.map ToolCall.opened) = _ :=
      flatMap_answers (fun h => h.tools) (fun h => h.2.2) hanswers
    rw [List.map_append, List.map_flatMap, hturns, hlast.tools, ← hevents, List.filterMap_append]

end SessionRecorder
