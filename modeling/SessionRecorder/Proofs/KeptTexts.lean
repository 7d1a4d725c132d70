import Mathlib.Data.List.Induction
import SessionRecorder.Proofs.Flushes

/-!
What is kept of the texts of a tool's call. The input of a call, its result and its error are cut
to a number of characters when they come, and no later event changes that: they are always the
front of the text that the event gave which started or finished the call. Main statement:
`kept_texts_are_fronts`.
-/

namespace SessionRecorder

namespace Text

/-- Whether a text is what is kept of the full one: its first characters, as many as may be kept,
and all of it if it has no more. -/
structure Kept (limit : Nat) (full kept : String) : Prop where
  bounded : kept.length ≤ limit
  /-- The cut is between two characters. -/
  front : ∃ rest, full = kept ++ rest
  octets : utf8 kept <+: utf8 full
  whole : full.length ≤ limit → kept = full
  longest : limit ≤ full.length → kept.length = limit

theorem take_append_drop (limit : Nat) (s : String) :
    s = take limit s ++ String.ofList (s.toList.drop limit) := by
  rw [take, ← String.ofList_append, List.take_append_drop, String.ofList_toList]

theorem length_take (limit : Nat) (s : String) : (take limit s).length = min limit s.length := by
  rw [take, String.length_ofList, List.length_take, String.length_toList]

theorem kept_take (limit : Nat) (full : String) : Kept limit full (take limit full) where
  bounded := by rw [length_take]; exact Nat.min_le_left _ _
  front := ⟨_, take_append_drop limit full⟩
  octets := by
    conv_rhs => rw [take_append_drop limit full]
    simp [utf8]
  whole h := by
    rw [take, List.take_of_length_le (by rwa [String.length_toList]), String.ofList_toList]
  longest h := by rw [length_take]; exact Nat.min_eq_left h

end Text

/-! ## The texts that events give -/

namespace Arrival

/-- The value under a key as a text: a text as it is, other data as JSON. Missing and null data
have none. -/
def valueText? (key : String) (e : Arrival) : Option String :=
  match e.data.get? key with
  | none => none
  | some .null => none
  | some (.string s) => some s
  | some value => some value.compact

/-- The whole input of the call that an event starts. -/
def inputText (e : Arrival) : String := (e.valueText? "tool_input").getD "\x7b\x7d"

/-- The whole result of the call that an event finishes. -/
def resultText? (e : Arrival) : Option String :=
  if e.event = "tool:post" then e.valueText? "result" else none

/-- The whole error of the call that an event finishes. -/
def errorText? (e : Arrival) : Option String :=
  if e.event = "tool:post" then e.valueText? "error"
  else some (((e.valueText? "error").or (e.valueText? "message")).getD "tool error")

theorem valueText?_eq (key : String) (e : Arrival) :
    e.valueText? key = (e.data.present? key).map Signal.render := by
  unfold valueText? Json.present?
  cases e.data.get? key with
  | none => rfl
  | some value => cases value <;> rfl

/-- What an event starts has the front of the whole input. -/
theorem input_of_call {e : Arrival} {t : ToolCall} (h : e.call? = some t) :
    e.event = "tool:pre" ∧ t.done = false ∧ t.result = none ∧ t.error = none ∧
      t.input = Text.take 200 e.inputText := by
  unfold call? at h
  split at h
  · obtain rfl := Option.some.inj h
    refine ⟨‹_›, rfl, rfl, rfl, ?_⟩
    rw [inputText, valueText?_eq]
    rfl
  · cases h

/-- What an event finishes has the fronts of the whole result and error. -/
theorem outcome_of_finish {e : Arrival} {name : String} {id result error : Option String}
    (h : Signal.ofEvent? e.event e.data = some (.toolFinished name id result error)) :
    (e.event = "tool:post" ∨ e.event = "tool:error") ∧ name = Signal.toolName e.data ∧
      id = Signal.callId? e.data ∧ result = e.resultText?.map (Text.take 500) ∧
      error = e.errorText?.map (Text.take 500) := by
  simp only [resultText?, errorText?, valueText?_eq]
  generalize e.event = event at h ⊢
  unfold Signal.ofEvent? at h
  split at h
  case h_3 =>
    simp only [Option.some.injEq, Signal.toolFinished.injEq] at h
    obtain ⟨rfl, rfl, rfl, rfl⟩ := h
    simp [Option.map_map, Function.comp_def, Signal.resultLimit]
  case h_4 =>
    simp only [Option.some.injEq, Signal.toolFinished.injEq] at h
    obtain ⟨rfl, rfl, rfl, rfl⟩ := h
    simp [Signal.resultLimit, Option.map_or]
  all_goals simp at h

end Arrival

/-! ## The calls of the open exchange -/

namespace Accumulator

/-- The state after events. -/
def hearAll (events : List Arrival) (a : Accumulator) : Accumulator :=
  events.foldl (fun a e => (a.onEvent e.time e.event e.data).2) a

theorem hearAll_concat (events : List Arrival) (e : Arrival) (a : Accumulator) :
    a.hearAll (events ++ [e]) = ((a.hearAll events).onEvent e.time e.event e.data).2 := by
  rw [hearAll, List.foldl_append]
  rfl

theorem agent_onEvent (e : Arrival) (a : Accumulator) :
    (a.onEvent e.time e.event e.data).2.agent = a.agent := by
  unfold onEvent
  split
  · rename_i s _
    cases s with
    | responseReceived usage => cases usage <;> rfl
    | _ => rfl
  · rfl

theorem agent_hearAll (events : List Arrival) (a : Accumulator) :
    (a.hearAll events).agent = a.agent := by
  induction events using List.reverseRecOn with
  | nil => rfl
  | append_singleton events e ih => rw [hearAll_concat, agent_onEvent, ih]

/-- Only the events since the last flush count. -/
theorem useAll_hearAll (agent : Option String) (now : List Arrival) (uses : List Use) :
    (((ofAgent agent).hearAll now).useAll uses).2 =
      (ofAgent agent).hearAll (Use.exchanges now uses).2 := by
  induction uses generalizing now with
  | nil => rfl
  | cons use rest ih =>
    cases use with
    | event e =>
      have hheard := ih (now ++ [e])
      rw [hearAll_concat] at hheard
      exact hheard
    | flush =>
      have hfresh : ((ofAgent agent).hearAll now).flush.2 = ofAgent agent :=
        congrArg ofAgent (agent_hearAll now (ofAgent agent))
      change (((ofAgent agent).hearAll now).flush.2.useAll rest).2 = _
      rw [hfresh]
      exact ih []

/-- What the events since the last flush say about the texts of the `n`-th call: its input is from
the `n`-th of them that starts a call, its result and its error are from the one that completed
it. -/
structure KeepsTexts (agent : Option String) (exchange : List Arrival) (n : Nat) (t : ToolCall) :
    Prop where
  input : ∃ before start after, exchange = before ++ start :: after ∧
    start.event = "tool:pre" ∧ before.countP (·.event = "tool:pre") = n ∧
    Text.Kept 200 start.inputText t.input
  pending : t.done = false → t.result = none ∧ t.error = none
  finished : t.done = true → ∃ before finish after, exchange = before ++ finish :: after ∧
    (finish.event = "tool:post" ∨ finish.event = "tool:error") ∧
    Completes (Signal.toolName finish.data) (Signal.callId? finish.data)
      ((ofAgent agent).hearAll before).current.tools n ∧
    Option.Rel (Text.Kept 500) finish.resultText? t.result ∧
    Option.Rel (Text.Kept 500) finish.errorText? t.error

variable {agent : Option String} {exchange : List Arrival} {n : Nat} {t : ToolCall}

theorem KeepsTexts.concat (h : KeepsTexts agent exchange n t) (e : Arrival) :
    KeepsTexts agent (exchange ++ [e]) n t where
  input := by
    obtain ⟨before, start, after, rfl, hstart⟩ := h.input
    exact ⟨before, start, after ++ [e], by simp, hstart⟩
  pending := h.pending
  finished hdone := by
    obtain ⟨before, finish, after, rfl, hfinish⟩ := h.finished hdone
    exact ⟨before, finish, after ++ [e], by simp, hfinish⟩

theorem KeepsTexts.input_bounded (h : KeepsTexts agent exchange n t) : t.input.length ≤ 200 := by
  obtain ⟨_, _, _, _, _, _, hinput⟩ := h.input
  exact hinput.bounded

theorem bounded_of_rel_kept {limit : Nat} {full kept : Option String}
    (h : Option.Rel (Text.Kept limit) full kept) : ∀ text ∈ kept, text.length ≤ limit := by
  cases h with
  | none => simp
  | some hkept => simpa using hkept.bounded

theorem KeepsTexts.outcome_bounded (h : KeepsTexts agent exchange n t) :
    (∀ text ∈ t.result, text.length ≤ 500) ∧ ∀ text ∈ t.error, text.length ≤ 500 := by
  cases hdone : t.done with
  | false =>
    obtain ⟨hresult, herror⟩ := h.pending hdone
    simp [hresult, herror]
  | true =>
    obtain ⟨_, _, _, _, _, _, hresult, herror⟩ := h.finished hdone
    exact ⟨bounded_of_rel_kept hresult, bounded_of_rel_kept herror⟩

theorem rel_kept_map (limit : Nat) (full : Option String) :
    Option.Rel (Text.Kept limit) full (full.map (Text.take limit)) := by
  cases full with
  | none => exact .none
  | some s => exact .some (Text.kept_take limit s)

theorem holds_hearAll (agent : Option String) (exchange : List Arrival) :
    ((ofAgent agent).hearAll exchange).current.Holds exchange := by
  induction exchange using List.reverseRecOn with
  | nil => exact holds_ofAgent agent
  | append_singleton exchange e ih =>
    rw [hearAll_concat]
    exact holds_onEvent ih e

/-- There are as many calls as events that start one. -/
theorem length_tools_hearAll (agent : Option String) (exchange : List Arrival) :
    ((ofAgent agent).hearAll exchange).current.tools.length =
      exchange.countP (·.event = "tool:pre") := by
  have hlength := congrArg List.length (holds_hearAll agent exchange).tools
  rw [List.length_map, List.length_filterMap_eq_countP] at hlength
  rw [hlength]
  refine List.countP_congr fun e _ => ?_
  by_cases he : e.event = "tool:pre" <;> simp [Arrival.call?, he]

theorem KeepsTexts.of_start {e : Arrival} (hcall : e.call? = some t) :
    KeepsTexts agent (exchange ++ [e]) (exchange.countP (·.event = "tool:pre")) t := by
  obtain ⟨hevent, hdone, hresult, herror, hinput⟩ := Arrival.input_of_call hcall
  refine ⟨?_, fun _ => ⟨hresult, herror⟩, fun h => ?_⟩
  · refine ⟨exchange, e, [], rfl, hevent, rfl, ?_⟩
    rw [hinput]
    exact Text.kept_take 200 _
  · rw [hdone] at h
    cases h

theorem KeepsTexts.of_finish (h : KeepsTexts agent exchange n t) {e : Arrival} {name : String}
    {id result error : Option String}
    (hsignal : Signal.ofEvent? e.event e.data = some (.toolFinished name id result error))
    (hcompletes : Completes name id ((ofAgent agent).hearAll exchange).current.tools n) :
    KeepsTexts agent (exchange ++ [e]) n { t with result, error, done := true } := by
  obtain ⟨hevent, rfl, rfl, rfl, rfl⟩ := Arrival.outcome_of_finish hsignal
  refine ⟨(h.concat e).input, by simp, fun _ => ?_⟩
  exact ⟨exchange, e, [], rfl, hevent, hcompletes, rel_kept_map 500 _, rel_kept_map 500 _⟩

theorem keepsTexts_hearAll (agent : Option String) (exchange : List Arrival)
    (ht : ((ofAgent agent).hearAll exchange).current.tools[n]? = some t) :
    KeepsTexts agent exchange n t := by
  induction exchange using List.reverseRecOn generalizing n t with
  | nil => simp [hearAll, ofAgent] at ht
  | append_singleton exchange e ih =>
    rw [hearAll_concat, onEvent] at ht
    cases hsignal : Signal.ofEvent? e.event e.data with
    | none =>
      rw [hsignal] at ht
      exact (ih ht).concat e
    | some s =>
      rw [hsignal] at ht
      simp only [tools_apply] at ht
      rcases getElem?_track ht with ⟨rfl, hstarted⟩ |
        ⟨name, id, result, error, u, rfl, hcompletes, hu, rfl⟩ | ⟨hold, _⟩
      · rw [length_tools_hearAll]
        refine .of_start ?_
        rw [← (Signal.ofEvent?_adds e).2.1, hsignal]
        exact hstarted
      · exact (ih hu).of_finish hsignal hcompletes
      · exact (ih hold).concat e

end Accumulator

open Accumulator

/-- At any time the input of a call has at most 200 characters, its result and its error at most
500 each. They are fronts of the whole texts in the events that started and completed the call
since the last flush, and each is the whole text where that is short enough. -/
theorem kept_texts_are_fronts (agent : Option String) (uses : List Use) (n : Nat) (t : ToolCall)
    (ht : ((ofAgent agent).useAll uses).2.current.tools[n]? = some t) :
    t.input.length ≤ 200 ∧ (∀ text ∈ t.result, text.length ≤ 500) ∧
      (∀ text ∈ t.error, text.length ≤ 500) ∧
      KeepsTexts agent (Use.exchanges [] uses).2 n t := by
  have hheard : ((ofAgent agent).useAll uses).2 = (ofAgent agent).hearAll _ :=
    useAll_hearAll agent [] uses
  rw [hheard] at ht
  have hkeeps := keepsTexts_hearAll agent _ ht
  obtain ⟨hresult, herror⟩ := hkeeps.outcome_bounded
  exact ⟨hkeeps.input_bounded, hresult, herror, hkeeps⟩

/-- Of 201 letters of two octets each 200 are kept, and the error of a call that gives none is
kept whole. -/
theorem accented_input_cut :
    let input := String.ofList (List.replicate 201 'é')
    let opening : Arrival := ⟨0, "tool:pre", .object [("tool_input", .string input)]⟩
    let failure : Arrival := ⟨1, "tool:error", .object []⟩
    let a := ((ofAgent none).useAll [.event opening, .event failure]).2
    ∃ t, a.current.tools[0]? = some t ∧ t.input.length = 200 ∧
      Text.utf8 t.input <+: Text.utf8 input ∧ t.result = none ∧ t.error = some "tool error" := by
  intro input opening failure a
  have hcompleted : a.current.tools[0]?.map (·.done) = some true := by decide +kernel
  obtain ⟨t, ht, hdone⟩ := Option.map_eq_some_iff.1 hcompleted
  obtain ⟨-, -, -, hkeeps⟩ := kept_texts_are_fronts none [.event opening, .event failure] 0 t ht
  obtain ⟨_, start, _, hstarted, hstart, -, hinput⟩ := hkeeps.input
  obtain ⟨_, finish, _, hended, hfinish, -, hresult, herror⟩ := hkeeps.finished hdone
  have hevents {e : Arrival} {before after : List Arrival}
      (h : [opening, failure] = before ++ e :: after) : e = opening ∨ e = failure := by
    have hmem : e ∈ [opening, failure] := by simp [h]
    simpa using hmem
  obtain rfl | rfl := hevents hstarted
  · obtain rfl | rfl := hevents hended
    · exact absurd hfinish (by decide)
    · have hlong : 200 ≤ opening.inputText.length := by
        have hwhole : opening.inputText = input := rfl
        rw [hwhole, String.length_ofList, List.length_replicate]
        decide
      have hnone : failure.resultText? = none := by decide
      have hdefault : failure.errorText? = some "tool error" := by decide
      refine ⟨t, ht, hinput.longest hlong, hinput.octets, ?_, ?_⟩
      · rw [hnone] at hresult
        generalize t.result = result at hresult
        cases hresult
        rfl
      · rw [hdefault] at herror
        generalize t.error = error at herror
        cases herror with
        | some hkept => rw [hkept.whole (by decide)]
  · exact absurd hstart (by decide)

end SessionRecorder
