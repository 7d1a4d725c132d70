import Mathlib.Data.List.DropRight
import Mathlib.Data.List.Induction
import SessionRecorder.Turn.Accumulator

/-!
How long a response took and which events come too late, told by the steps that an accumulator has
taken. It keeps two notes: when a request was sent that no report has answered, and that execution
has ended. A note is made by one kind of step and dropped by two others, so it stands just if
its step came behind the last one that drops it. Main statement: `latency_of_latest_request`.
-/

namespace SessionRecorder

namespace Accumulator

/-- What an accumulator is given: a signal, an event that may mean one, or a flush. -/
inductive Step where
  | signal (s : Signal)
  | event (name : String) (data : Json)
  | flush

namespace Step

/-- The signal that a step brings. -/
def signal? : Step → Option Signal
  | signal s => some s
  | event name data => Signal.ofEvent? name data
  | flush => none

def isFlush : Step → Bool
  | flush => true
  | _ => false

def isRequest (x : Step) : Bool := x.signal? = some .requestSent

/-- Whether a step is a response that reports its usage. -/
def isReport (x : Step) : Bool :=
  match x.signal? with
  | some (.responseReceived usage ..) => usage.isSome
  | _ => false

def isEnd (x : Step) : Bool := x.signal? = some .executionEnded

def isPrompt (x : Step) : Bool :=
  match x.signal? with
  | some (.promptSubmitted _) => true
  | _ => false

/-- Whether no request waits for a report behind a step. -/
def closes (x : Step) : Bool := x.isReport || x.isFlush

/-- Whether nothing comes too late directly behind a step. -/
def resumes (x : Step) : Bool := x.isPrompt || x.isFlush

end Step

/-- The state after a step at a time. -/
def take (now : Nat) (x : Step) (a : Accumulator) : Accumulator :=
  match x with
  | .signal s => a.apply now s
  | .event name data => (a.onEvent now name data).2
  | .flush => a.flush.2

/-- The state after steps at their times. -/
def takeAll (trace : List (Nat × Step)) (a : Accumulator) : Accumulator :=
  trace.foldl (fun a x => a.take x.1 x.2) a

theorem takeAll_concat (trace : List (Nat × Step)) (x : Nat × Step) (a : Accumulator) :
    a.takeAll (trace ++ [x]) = (a.takeAll trace).take x.1 x.2 := by
  rw [takeAll, List.foldl_append]
  rfl

/-! ## Traces -/

/-- The steps behind the last one that satisfies `p`. -/
def since (p : Step → Bool) (trace : List (Nat × Step)) : List (Nat × Step) :=
  trace.rtakeWhile (!p ·.2)

/-- When the last step that satisfies `p` was taken. -/
def latest? (p : Step → Bool) (trace : List (Nat × Step)) : Option Nat :=
  (trace.reverse.find? (p ·.2)).map (·.1)

section

variable (p q : Step → Bool) (trace : List (Nat × Step)) (x : Nat × Step)

theorem since_concat : since p (trace ++ [x]) = if p x.2 then [] else since p trace ++ [x] := by
  rw [since, List.rtakeWhile_concat]
  cases p x.2 <;> rfl

theorem latest?_concat :
    latest? p (trace ++ [x]) = if p x.2 then some x.1 else latest? p trace := by
  rw [latest?, List.reverse_append, List.reverse_singleton, List.singleton_append, List.find?_cons]
  cases p x.2 <;> rfl

/-- Whether a step that satisfies `p` has been taken and none that satisfies `q` since. -/
def stands : Bool := (since q trace).any (p ·.2)

theorem stands_concat :
    stands p q (trace ++ [x]) = (!q x.2 && (p x.2 || stands p q trace)) := by
  rw [stands, since_concat]
  cases hq : q x.2 with
  | true => rfl
  | false => simp [stands, Bool.or_comm]

theorem stands_iff : stands p q trace = true ↔ ∃ y ∈ since q trace, p y.2 = true :=
  List.any_eq_true

end

/-- A step that has been taken has a latest of its kind, at one of the times of the trace. -/
theorem exists_latest {p : Step → Bool} {trace : List (Nat × Step)} {y : Nat × Step}
    (hy : y ∈ trace) (hp : p y.2 = true) :
    ∃ t, latest? p trace = some t ∧ t ∈ trace.map (·.1) := by
  have hfound : (trace.reverse.find? (p ·.2)).isSome = true :=
    List.find?_isSome.2 ⟨y, List.mem_reverse.2 hy, hp⟩
  obtain ⟨z, hz⟩ := Option.isSome_iff_exists.1 hfound
  refine ⟨z.1, by rw [latest?, hz, Option.map_some], List.mem_map_of_mem ?_⟩
  exact List.mem_reverse.1 (List.mem_of_find?_eq_some hz)

/-! ## What a step does to the notes -/

variable {a : Accumulator} {x : Step} {now : Nat}

theorem take_of_signal {s : Signal} (h : x.signal? = some s) : a.take now x = a.apply now s := by
  cases x with
  | signal t => exact congrArg (a.apply now) (Option.some.inj h)
  | event name data => simp only [take, onEvent, show Signal.ofEvent? name data = some s from h]
  | flush => cases h

theorem take_of_no_signal (h : x.signal? = none) (hflush : x.isFlush = false) :
    a.take now x = a := by
  cases x with
  | signal t => cases h
  | event name data => simp only [take, onEvent, show Signal.ofEvent? name data = none from h]
  | flush => cases hflush

theorem requested_take : (a.take now x).requested =
    if x.isRequest then some now else if x.closes then none else a.requested := by
  cases hflush : x.isFlush with
  | true =>
    cases x with
    | flush => rfl
    | _ => cases hflush
  | false =>
    cases hsignal : x.signal? with
    | none =>
      rw [take_of_no_signal hsignal hflush]
      simp [Step.isRequest, Step.closes, Step.isReport, hsignal, hflush]
    | some s =>
      rw [take_of_signal hsignal]
      simp only [Step.isRequest, Step.closes, Step.isReport, hsignal, hflush]
      cases s with
      | responseReceived usage => cases usage <;> rfl
      | _ => rfl

theorem ended_take : (a.take now x).ended = (!x.resumes && (x.isEnd || a.ended)) := by
  cases hflush : x.isFlush with
  | true =>
    cases x with
    | flush => rfl
    | _ => cases hflush
  | false =>
    cases hsignal : x.signal? with
    | none =>
      rw [take_of_no_signal hsignal hflush]
      simp [Step.isEnd, Step.resumes, Step.isPrompt, hsignal, hflush]
    | some s =>
      rw [take_of_signal hsignal]
      simp only [Step.isEnd, Step.resumes, Step.isPrompt, hsignal, hflush]
      cases s with
      | responseReceived usage => cases usage <;> rfl
      | _ => rfl

/-! ## What the notes say after a run -/

/-- The time that is noted is that of the latest request of all, if a request stands. -/
theorem requested_takeAll (agent : Option String) (trace : List (Nat × Step)) :
    ((ofAgent agent).takeAll trace).requested =
      if stands Step.isRequest Step.closes trace then latest? Step.isRequest trace else none := by
  induction trace using List.reverseRecOn with
  | nil => rfl
  | append_singleton trace x ih =>
    -- No step is a request and closes one.
    have hrequest (h : x.2.isRequest = true) : x.2.closes = false := by
      have hsignal : x.2.signal? = some .requestSent := of_decide_eq_true h
      have hflush : x.2.isFlush = false := by
        cases hx : x.2 with
        | flush => rw [hx] at hsignal; cases hsignal
        | _ => rfl
      simp [Step.closes, Step.isReport, hsignal, hflush]
    rw [takeAll_concat, requested_take, ih, stands_concat, latest?_concat]
    cases hr : x.2.isRequest with
    | true => simp [hrequest hr]
    | false => cases x.2.closes <;> simp

theorem ended_takeAll (agent : Option String) (trace : List (Nat × Step)) :
    ((ofAgent agent).takeAll trace).ended = stands Step.isEnd Step.resumes trace := by
  induction trace using List.reverseRecOn with
  | nil => rfl
  | append_singleton trace x ih => rw [takeAll_concat, ended_take, ih, stands_concat]

theorem metrics_take_report (h : x.isReport = true) :
    ∃ m, (a.take now x).current.metrics = some m ∧ m.duration = a.requested.map (elapsed now) := by
  unfold Step.isReport at h
  split at h
  · rename_i usage model provider finishReason hsignal
    obtain ⟨u, rfl⟩ := Option.isSome_iff_exists.1 h
    rw [take_of_signal hsignal]
    exact ⟨_, rfl, rfl⟩
  · cases h

theorem toNat_elapsed (now start : Nat) :
    (elapsed now start).toNat = min (now - start) (2 ^ 64 - 1) := by
  have h : min (now - start) (2 ^ 64 - 1) < 2 ^ 64 := by omega
  exact UInt64.toNat_ofNat_of_lt' h

end Accumulator

open Accumulator

/-- A response that reports its usage took the time since the latest request, as far as 64 bits
hold it, if a request has come behind the last flush and behind the last such response, and else
has no time. An event comes too late just if it is of the model and execution has ended, with no
prompt and no flush behind that. -/
theorem latency_of_latest_request (agent : Option String)
    (trace : List (Nat × Accumulator.Step)) (now : Nat)
    (hclock : (trace.map (·.1) ++ [now]).Pairwise (· ≤ ·)) :
    let a := (ofAgent agent).takeAll trace
    (∀ x : Accumulator.Step, x.isReport = true → ∃ m, (a.take now x).current.metrics = some m ∧
      ((∃ y ∈ since Accumulator.Step.closes trace, y.2.isRequest = true) →
        ∃ t, latest? Accumulator.Step.isRequest trace = some t ∧ t ≤ now ∧
          m.duration.map UInt64.toNat = some (min (now - t) (2 ^ 64 - 1))) ∧
      ((¬ ∃ y ∈ since Accumulator.Step.closes trace, y.2.isRequest = true) →
        m.duration = none)) ∧
    ∀ name, a.isStraggler name = true ↔ "llm:".toList <+: name.toList ∧
      ∃ y ∈ since Accumulator.Step.resumes trace, y.2.isEnd = true := by
  intro a
  refine ⟨fun x hx => ?_, fun name => ?_⟩
  · obtain ⟨m, hm, hduration⟩ := @metrics_take_report a x now hx
    rw [requested_takeAll agent trace] at hduration
    refine ⟨m, hm, fun hsince => ?_, fun hsince => ?_⟩
    · obtain ⟨y, hy, hrequest⟩ := hsince
      rw [if_pos ((stands_iff ..).2 ⟨y, hy, hrequest⟩)] at hduration
      obtain ⟨t, ht, htime⟩ := exists_latest ((List.rtakeWhile_suffix _ _).mem hy) hrequest
      have hle : t ≤ now := (List.pairwise_append.1 hclock).2.2 t htime now (by simp)
      refine ⟨t, ht, hle, ?_⟩
      rw [hduration, ht, Option.map_some, Option.map_some, toNat_elapsed]
    · rw [if_neg fun h => hsince ((stands_iff ..).1 h)] at hduration
      exact hduration
  · rw [isStraggler, Bool.and_eq_true, ended_takeAll, stands_iff, Text.startsWith,
      List.isPrefixOf_iff_prefix, and_comm]

/-- Of two requests behind a flush the later counts, also behind a response without usage, and a
prompt that carries nothing does not resume what has ended. -/
theorem later_request_counts :
    let trace : List (Nat × Accumulator.Step) := [
      (1, .signal .requestSent), (2, .signal .executionEnded), (4, .flush),
      (5, .signal .requestSent), (10, .event "provider:request" .null),
      (20, .event "provider:response" (.object [("stop_reason", .string "end_turn")])),
      (30, .event "execution:end" .null), (40, .event "prompt:submit" (.object []))]
    let a := (ofAgent none).takeAll trace
    (trace.map Prod.fst ++ [260]).Pairwise (· ≤ ·) ∧
    (∃ m, (a.take 260 (.signal (.responseReceived (some {}) none none none))).current.metrics =
      some m ∧ m.duration.map UInt64.toNat = some 250) ∧
    a.isStraggler "llm:response" = true := by
  intro trace a
  have hclock : (trace.map Prod.fst ++ [260]).Pairwise (· ≤ ·) := by decide
  obtain ⟨hduration, hlate⟩ := latency_of_latest_request none trace 260 hclock
  obtain ⟨m, hm, hsome, -⟩ := hduration (.signal (.responseReceived (some {}) none none none)) rfl
  obtain ⟨t, ht, -, htime⟩ := hsome (by decide +kernel)
  obtain rfl : 10 = t := Option.some.inj (Eq.trans (by decide +kernel) ht)
  exact ⟨hclock, ⟨m, hm, htime⟩, (hlate _).2 (by decide +kernel)⟩

end SessionRecorder
