import Mathlib.Data.List.DropRight
import Mathlib.Data.List.Induction
import Mathlib.Data.List.Nodup
import SessionRecorder.Proofs.StoreCalls
import SessionRecorder.Store.Memory

/-!
What a store in memory is, told by all that was ever done with it: its turns are the appends that
it has acknowledged, its contexts those that it has given, and whether it is connected and which
appends fail follows from the calls, the changes of its faults and their answers. Main statement:
`store_append_only`.
-/

namespace SessionRecorder

namespace MemoryStore

/-- A use of the store: a call, or a change of its faults. -/
inductive Use where
  | call (c : StoreCall)
  | switch (change : Switch)
deriving DecidableEq

/-- The answer to a use, and the store behind it. A change of the faults has no answer. -/
def perform (use : Use) (s : MemoryStore) : Except StoreError StoreAnswer × MemoryStore :=
  match use with
  | .call c => c.perform s
  | .switch change => (.ok .nothing, s.switch change)

/-- The store behind uses. -/
def useAll (uses : List Use) (s : MemoryStore) : MemoryStore :=
  uses.foldl (fun s use => (s.perform use).2) s

/-- A use with its answer. -/
structure Done where
  use : Use
  answer : Except StoreError StoreAnswer

/-- The uses with their answers, in order. -/
def history : List Use → MemoryStore → List Done
  | [], _ => []
  | use :: rest, s => ⟨use, (s.perform use).1⟩ :: history rest (s.perform use).2

theorem useAll_concat (uses : List Use) (use : Use) (s : MemoryStore) :
    useAll (uses ++ [use]) s = ((useAll uses s).perform use).2 := by
  rw [useAll, List.foldl_append]
  rfl

theorem history_concat (uses : List Use) (use : Use) (s : MemoryStore) :
    history (uses ++ [use]) s = history uses s ++ [⟨use, ((useAll uses s).perform use).1⟩] := by
  induction uses generalizing s with
  | nil => rfl
  | cons first rest ih => exact congrArg _ (ih _)

/-! ## What the past says -/

namespace Done

/-- Whether there is a connection behind a use, if it makes or ends one. -/
def link? : Done → Option Bool
  | ⟨.call .connect, .ok _⟩ => some true
  | ⟨.call .connect, .error _⟩ => some false
  | ⟨.call .close, _⟩ => some false
  | ⟨.switch .disconnect, _⟩ => some false
  | ⟨.call (.append ..), .error (.connectionLost _)⟩ => some false
  | _ => none

/-- The type whose records are rejected from here on. -/
def rejects? : Done → Option String
  | ⟨.switch (.reject typeId), _⟩ => some typeId
  | _ => none

/-- Whether all appends are to fail from here on. -/
def fails? : Done → Option Bool
  | ⟨.switch (.failAppends on), _⟩ => some on
  | _ => none

/-- Whether contexts are refused from here on. -/
def refuses? : Done → Option Bool
  | ⟨.switch (.failCreate on), _⟩ => some on
  | _ => none

/-- The number of appends from here on behind which all others are to fail. -/
def limit? : Done → Option Nat
  | ⟨.switch (.failAppendsAfter n), _⟩ => some n
  | _ => none

/-- Whether a use is an append that found a connection. -/
def isAttempt : Done → Bool
  | ⟨.call (.append ..), .error .notConnected⟩ => false
  | ⟨.call (.append ..), _⟩ => true
  | _ => false

/-- The turn that was stored, by the number in its acknowledgement. -/
def stored? : Done → Option StoredTurn
  | ⟨.call (.append parent d), .ok (.context ack)⟩ => some ⟨ack.turn, parent, d⟩
  | _ => none

/-- The head in the acknowledgement of an append to a context. -/
def head? (context : UInt64) : Done → Option TurnHead
  | ⟨.call (.append _ d), .ok (.context ack)⟩ =>
    if d.context = context then some ⟨ack.turn, ack.depth⟩ else none
  | _ => none

/-- The id of the context that was created or forked. -/
def opened? : Done → Option UInt64
  | ⟨.call (.create _), .ok (.context head)⟩ => some head.context
  | ⟨.call (.fork _), .ok (.context head)⟩ => some head.context
  | _ => none

theorem adds_nothing {x : Done} (h : ∀ head, x.answer ≠ .ok (.context head)) :
    x.stored? = none ∧ x.opened? = none ∧ ∀ context, x.head? context = none := by
  refine ⟨?_, ?_, fun context => ?_⟩
  · unfold stored?
    split
    · exact absurd rfl (h _)
    · rfl
  · unfold opened?
    split
    · exact absurd rfl (h _)
    · exact absurd rfl (h _)
    · rfl
  · unfold head?
    split
    · exact absurd rfl (h _)
    · rfl

theorem isAttempt_of_limit {x : Done} {n : Nat} (h : x.limit? = some n) :
    x.isAttempt = false := by
  unfold limit? at h
  split at h
  · rfl
  · cases h

end Done

section

variable (past : List Done)

/-- What the last use said that said something. -/
def latest? {α : Type} (read : Done → Option α) : Option α := (past.filterMap read).getLast?

/-- Whether the last use that makes or ends a connection has made one. -/
def isLinked : Bool := (latest? past Done.link?).getD false

/-- The appends that found a connection since the last limit of them was set. -/
def attemptsSince : Nat := (past.rtakeWhile (·.limit?.isNone)).countP Done.isAttempt

/-- Whether appends are under a fault: all are to fail, or as many as were let pass have come. -/
def isFaulty : Bool :=
  (latest? past Done.fails?).getD false || (latest? past Done.limit?).any (· ≤ attemptsSince past)

/-- Whether contexts are refused. -/
def refusesContexts : Bool := (latest? past Done.refuses?).getD false

/-- The types whose records are rejected. -/
def rejectedTypes : List String := past.filterMap Done.rejects?

/-- The head of a context by its last acknowledged append, zero if there is none. -/
def headOf (context : UInt64) : TurnHead := (latest? past (Done.head? context)).getD ⟨0, 0⟩

variable {past} (x : Done)

theorem filterMap_concat {α : Type} (read : Done → Option α) :
    (past ++ [x]).filterMap read = past.filterMap read ++ (read x).toList := by
  rw [List.filterMap_append]
  cases h : read x <;> simp [h]

theorem latest?_concat {α : Type} (read : Done → Option α) :
    latest? (past ++ [x]) read = (read x).or (latest? past read) := by
  rw [latest?, filterMap_concat, List.getLast?_append]
  cases read x <;> rfl

theorem attemptsSince_concat : attemptsSince (past ++ [x]) =
    if x.limit?.isSome then 0 else attemptsSince past + x.isAttempt.toNat := by
  rw [attemptsSince, List.rtakeWhile_concat]
  cases x.limit? with
  | some n => rfl
  | none => cases h : x.isAttempt <;> simp [attemptsSince, h]

end

/-! ## What a use does -/

/-- All that a use can do. -/
inductive Outcome (s : MemoryStore) :
    Use → Except StoreError StoreAnswer → MemoryStore → Prop where
  | connected (h : s.failsConnect = false) : Outcome s (.call .connect) (.ok .nothing)
      { s with connects := s.connects + 1, connected := true }
  | unreachable (h : s.failsConnect = true) :
      Outcome s (.call .connect) (.error (.connect "memory" .refused))
        { s with connects := s.connects + 1, connected := false }
  | closed : Outcome s (.call .close) (.ok .nothing) { s with connected := false }
  | unlinked {c : StoreCall} (hc : c.isRequest = true) (h : s.connected = false) :
      Outcome s (.call c) (.error .notConnected) s
  | unopened {c : StoreCall} {base : UInt64} (hc : c = .create base ∨ c = .fork base)
      (h : s.connected = true) (hfails : s.failsCreate = true) :
      Outcome s (.call c) (.error (.protocol (some 500) "context creation disabled")) s
  | opened {c : StoreCall} {base turn : UInt64} (hc : c = .create base ∨ c = .fork base)
      (h : s.connected = true) (hfails : s.failsCreate = false) :
      Outcome s (.call c) (.ok (.context ⟨.ofNat (s.contexts + 1), turn, 0⟩))
        { s with contexts := s.contexts + 1 }
  | asked {context : UInt64} (h : s.connected = true) : Outcome s (.call (.head context))
      (.ok (.turn ⟨((s.turnsIn context).getLast?.map (·.number)).getD 0, s.depth context⟩)) s
  | rejected {parent : UInt64} {d : Delivery} (h : s.connected = true)
      (htype : d.type.id ∈ s.rejected) :
      Outcome s (.call (.append parent d))
        (.error (.protocol (some 413) s!"type {d.type.id} rejected"))
        { s with appends := s.appends + 1 }
  | lost {parent : UInt64} {d : Delivery} (h : s.connected = true) (htype : d.type.id ∉ s.rejected)
      (hloses : losesAppend { s with appends := s.appends + 1 } = true) :
      Outcome s (.call (.append parent d)) (.error (.connectionLost .reset))
        { s with appends := s.appends + 1, connected := false }
  | stored {parent : UInt64} {d : Delivery} {next : MemoryStore} (h : s.connected = true)
      (htype : d.type.id ∉ s.rejected)
      (hloses : losesAppend { s with appends := s.appends + 1 } = false)
      (hnext : next = { s with
        appends := s.appends + 1
        turns := s.turns ++ [⟨UInt64.ofNat (s.turns.length + 1), parent, d⟩] }) :
      Outcome s (.call (.append parent d))
        (.ok (.context ⟨d.context, .ofNat (s.turns.length + 1), next.depth d.context⟩)) next
  | switched (change : Switch) : Outcome s (.switch change) (.ok .nothing) (s.switch change)

theorem outcome_opening {c : StoreCall} {base turn : UInt64}
    (hc : c = .create base ∨ c = .fork base) (s : MemoryStore) :
    Outcome s (.call c) ((s.newContext turn).1.map .context) (s.newContext turn).2 := by
  have hrequest : c.isRequest = true := by rcases hc with rfl | rfl <;> rfl
  unfold newContext
  split
  · rename_i h
    exact .unlinked hrequest (by simpa using h)
  · rename_i h
    have h : s.connected = true := by simpa using h
    split
    · exact .unopened hc h ‹_›
    · rename_i hfails
      exact .opened hc h (by simpa using hfails)

theorem outcome_append (parent : UInt64) (d : Delivery) (s : MemoryStore) :
    Outcome s (.call (.append parent d)) ((s.append parent d).1.map .context)
      (s.append parent d).2 := by
  unfold append
  split
  · rename_i h
    exact .unlinked rfl (by simpa using h)
  · rename_i h
    have h : s.connected = true := by simpa using h
    dsimp only
    split
    · rename_i htype
      exact .rejected h (by simpa using htype)
    · rename_i htype
      have htype : d.type.id ∉ s.rejected := by simpa using htype
      split
      · exact .lost h htype ‹_›
      · rename_i hloses
        exact .stored h htype (by simpa using hloses) rfl

theorem outcome (use : Use) (s : MemoryStore) :
    Outcome s use (s.perform use).1 (s.perform use).2 := by
  cases use with
  | switch change => exact .switched change
  | call c =>
    cases c with
    | connect =>
      change Outcome s _ (s.connect.1.map _) s.connect.2
      unfold connect
      dsimp only
      split
      · exact .unreachable ‹_›
      · rename_i h
        exact .connected (by simpa using h)
    | close => exact .closed
    | create base => exact outcome_opening (.inl rfl) s
    | fork base => exact outcome_opening (.inr rfl) s
    | head context =>
      change Outcome s _ ((s.head context).1.map _) (s.head context).2
      unfold head
      split
      · rename_i h
        exact .unlinked rfl (by simpa using h)
      · rename_i h
        exact .asked (by simpa using h)
    | append parent d => exact outcome_append parent d s

/-- The number of the last turn of a context, zero if there is none, and its depth. -/
def lastOf (context : UInt64) (s : MemoryStore) : TurnHead :=
  ⟨((s.turnsIn context).getLast?.map (·.number)).getD 0, s.depth context⟩

/-- What a use says about connection and faults is what it changes of them. -/
structure Links (x : Done) (s next : MemoryStore) : Prop where
  connected : next.connected = x.link?.getD s.connected
  rejected : next.rejected = s.rejected ++ x.rejects?.toList
  failsAppends : next.failsAppends = x.fails?.getD s.failsAppends
  failsCreate : next.failsCreate = x.refuses?.getD s.failsCreate
  appends : next.appends = s.appends + x.isAttempt.toNat
  appendLimit : next.appendLimit = (x.limit?.map (s.appends + ·)).or s.appendLimit

/-- What a use says about turns and contexts is what it adds to them. -/
structure Adds (x : Done) (s next : MemoryStore) : Prop where
  turns : next.turns = s.turns ++ x.stored?.toList
  number : ∀ turn ∈ x.stored?, turn.number = .ofNat (s.turns.length + 1)
  contexts : next.contextIds = s.contextIds ++ x.opened?.toList
  last : ∀ context, next.lastOf context = (x.head? context).getD (s.lastOf context)

section

variable {s next : MemoryStore} {use : Use} {answer : Except StoreError StoreAnswer}

theorem Outcome.links (h : Outcome s use answer next) : Links ⟨use, answer⟩ s next := by
  cases h with
  | @unlinked c hc =>
    cases c with
    | connect | close => cases hc
    | _ => exact ⟨rfl, (List.append_nil _).symm, rfl, rfl, rfl, rfl⟩
  | unopened hc =>
    rcases hc with rfl | rfl <;> exact ⟨rfl, (List.append_nil _).symm, rfl, rfl, rfl, rfl⟩
  | opened hc =>
    rcases hc with rfl | rfl <;> exact ⟨rfl, (List.append_nil _).symm, rfl, rfl, rfl, rfl⟩
  | stored _ _ _ hnext =>
    subst hnext
    exact ⟨rfl, (List.append_nil _).symm, rfl, rfl, rfl, rfl⟩
  | switched change =>
    cases change with
    | reject typeId => exact ⟨rfl, rfl, rfl, rfl, rfl, rfl⟩
    | _ => exact ⟨rfl, (List.append_nil _).symm, rfl, rfl, rfl, rfl⟩
  | _ => exact ⟨rfl, (List.append_nil _).symm, rfl, rfl, rfl, rfl⟩

/-- Without a context in its answer a use adds nothing. -/
theorem Adds.of_same (hanswer : ∀ head, answer ≠ .ok (.context head))
    (hturns : next.turns = s.turns) (hcontexts : next.contexts = s.contexts) :
    Adds ⟨use, answer⟩ s next := by
  obtain ⟨hstored, hopened, hhead⟩ := @Done.adds_nothing ⟨use, answer⟩ hanswer
  refine ⟨?_, ?_, ?_, fun context => ?_⟩
  · rw [hturns, hstored]
    exact (List.append_nil _).symm
  · simp [hstored]
  · rw [contextIds, contextIds, hcontexts, hopened]
    exact (List.append_nil _).symm
  · rw [hhead]
    simp only [lastOf, turnsIn, depth, hturns, Option.getD_none]

theorem contextIds_succ (s : MemoryStore) : contextIds { s with contexts := s.contexts + 1 } =
    s.contextIds ++ [.ofNat (s.contexts + 1)] := by
  simp only [contextIds, List.range_succ, List.map_append, List.map_cons, List.map_nil]

theorem lastOf_stored {turn : StoredTurn} (hnext : next.turns = s.turns ++ [turn])
    (context : UInt64) : next.lastOf context =
      if turn.delivery.context = context then ⟨turn.number, next.depth context⟩
      else s.lastOf context := by
  have hin : next.turnsIn context =
      s.turnsIn context ++ if turn.delivery.context = context then [turn] else [] := by
    rw [turnsIn, hnext, List.filter_append]
    split <;> simp_all [turnsIn]
  split
  · rename_i h
    rw [if_pos h] at hin
    rw [lastOf, hin, List.getLast?_concat]
    rfl
  · rename_i h
    rw [if_neg h, List.append_nil] at hin
    rw [lastOf, lastOf, depth, depth, hin]

theorem Outcome.adds (h : Outcome s use answer next) : Adds ⟨use, answer⟩ s next := by
  cases h with
  | opened hc =>
    have hids := contextIds_succ s
    rcases hc with rfl | rfl <;>
      exact ⟨(List.append_nil _).symm, by simp [Done.stored?], hids, fun _ => rfl⟩
  | stored _ _ _ hnext =>
    have hturns := congrArg MemoryStore.turns hnext
    refine ⟨hturns, by simp [Done.stored?], ?_, fun context => ?_⟩
    · rw [contextIds, hnext]
      exact (List.append_nil _).symm
    · rw [lastOf_stored hturns, Done.head?]
      split
      · rename_i hcontext
        rw [← hcontext]
        rfl
      · rfl
  | switched change => cases change <;> exact .of_same (by rintro _ ⟨⟩) rfl rfl
  | _ => exact .of_same (by rintro _ ⟨⟩) rfl rfl

end

/-! ## What the past says about the store -/

/-- Whether the past tells the store as it is. -/
structure Told (past : List Done) (s : MemoryStore) : Prop where
  connected : s.connected = isLinked past
  rejected : s.rejected = rejectedTypes past
  failsAppends : s.failsAppends = (latest? past Done.fails?).getD false
  failsCreate : s.failsCreate = refusesContexts past
  attempts : attemptsSince past ≤ s.appends
  appendLimit : s.appendLimit =
    (latest? past Done.limit?).map (· + (s.appends - attemptsSince past))
  turns : s.turns = past.filterMap Done.stored?
  numbers : s.turns.map (·.number) = (List.range' 1 s.turns.length).map UInt64.ofNat
  contexts : s.contextIds = past.filterMap Done.opened?
  last : ∀ context, s.lastOf context = headOf past context

theorem Told.concat {past : List Done} {s next : MemoryStore} {x : Done} (h : Told past s)
    (hlinks : Links x s next) (hadds : Adds x s next) : Told (past ++ [x]) next where
  connected := by
    rw [hlinks.connected, isLinked, latest?_concat, h.connected, isLinked]
    cases x.link? <;> rfl
  rejected := by rw [hlinks.rejected, rejectedTypes, filterMap_concat, h.rejected, rejectedTypes]
  failsAppends := by
    rw [hlinks.failsAppends, latest?_concat, h.failsAppends]
    cases x.fails? <;> rfl
  failsCreate := by
    rw [hlinks.failsCreate, refusesContexts, latest?_concat, h.failsCreate, refusesContexts]
    cases x.refuses? <;> rfl
  attempts := by
    have hbefore := h.attempts
    rw [hlinks.appends, attemptsSince_concat]
    split <;> omega
  appendLimit := by
    have hbefore := h.attempts
    rw [hlinks.appendLimit, hlinks.appends, latest?_concat, attemptsSince_concat]
    cases hlimit : x.limit? with
    | some n => simp [Done.isAttempt_of_limit hlimit, Nat.add_comm]
    | none =>
      have hsame : s.appends + x.isAttempt.toNat - (attemptsSince past + x.isAttempt.toNat) =
          s.appends - attemptsSince past := by omega
      simp [h.appendLimit, hsame]
  turns := by rw [hadds.turns, filterMap_concat, h.turns]
  numbers := by
    rw [hadds.turns]
    cases hstored : x.stored? with
    | none => simpa using h.numbers
    | some turn =>
      have hnumber := hadds.number turn hstored
      simp [h.numbers, hnumber, List.range'_concat, Nat.add_comm]
  contexts := by rw [hadds.contexts, filterMap_concat, h.contexts]
  last context := by
    rw [hadds.last, headOf, latest?_concat, h.last, headOf]
    cases x.head? context <;> rfl

theorem told (tag : String) (uses : List Use) :
    Told (history uses { tag }) (useAll uses { tag }) := by
  induction uses using List.reverseRecOn with
  | nil =>
    exact ⟨rfl, rfl, rfl, rfl, Nat.le_refl 0, rfl, rfl, rfl, rfl, fun _ => rfl⟩
  | append_singleton uses use ih =>
    rw [history_concat, useAll_concat]
    have houtcome := outcome use (useAll uses { tag })
    exact ih.concat houtcome.links houtcome.adds

section

variable {past : List Done} {s next : MemoryStore} {use : Use}
  {answer : Except StoreError StoreAnswer}

theorem Told.losesAppend (h : Told past s) :
    MemoryStore.losesAppend { s with appends := s.appends + 1 } = isFaulty past := by
  have hattempts := h.attempts
  rw [MemoryStore.losesAppend, isFaulty, h.failsAppends, h.appendLimit]
  cases latest? past Done.limit? with
  | none => rfl
  | some n =>
    have hlimit : n + (s.appends - attemptsSince past) < s.appends + 1 ↔
        n ≤ attemptsSince past := by omega
    simp only [Option.map_some, Option.any_some, hlimit]

theorem Outcome.unchanged {e : StoreError} (h : Outcome s use (.error e) next) :
    next.turns = s.turns ∧ next.contexts = s.contexts := by
  cases h <;> exact ⟨rfl, rfl⟩

/-- When no context is made, and which one is made else. -/
theorem Told.open (h : Told past s) {base : UInt64}
    (huse : use = .call (.create base) ∨ use = .call (.fork base))
    (houtcome : Outcome s use answer next) :
    ((∃ e, answer = .error e) ↔ s.connected = false ∨ refusesContexts past = true) ∧
    (∀ a, answer = .ok a → ∃ head, a = .context head ∧ head.context = .ofNat (s.contexts + 1)) := by
  rw [← h.failsCreate]
  cases houtcome with
  | unlinked _ hlink => simp [hlink]
  | unopened _ hlink hfails => simp [hfails]
  | opened _ hlink hfails => simp [hlink, hfails]
  | _ => simp at huse

/-- When an append fails, what else it gives, and when it ends the connection. -/
theorem Told.append (h : Told past s) {parent : UInt64} {d : Delivery}
    (houtcome : Outcome s (.call (.append parent d)) answer next) :
    ((∃ e, answer = .error e) ↔
      s.connected = false ∨ d.type.id ∈ rejectedTypes past ∨ isFaulty past = true) ∧
    (∀ a, answer = .ok a → ∃ ack, a = .context ack ∧ ack.context = d.context ∧
      ack.depth = next.depth d.context) ∧
    (s.connected = true →
      (next.connected = false ↔ d.type.id ∉ rejectedTypes past ∧ isFaulty past = true)) := by
  rw [← h.losesAppend, ← h.rejected]
  cases houtcome with
  | unlinked _ hlink => simp [hlink]
  | unopened hc | opened hc => simp at hc
  | rejected hlink htype => simp [hlink, htype]
  | lost hlink htype hloses => simp [htype, hloses]
  | stored hlink htype hloses hnext =>
    have hstays : next.connected = true := by rw [hnext]; exact hlink
    rw [hloses]
    simp [hlink, htype, hstays]

theorem Told.head (h : Told past s) {context : UInt64} (hlink : s.connected = true)
    (houtcome : Outcome s (.call (.head context)) answer next) :
    answer = .ok (.turn (headOf past context)) := by
  cases houtcome with
  | unlinked _ hnot => simp [hlink] at hnot
  | unopened hc | opened hc => simp at hc
  | asked => exact congrArg (fun head => Except.ok (StoreAnswer.turn head)) (h.last context)

end

theorem toNat_depth {s : MemoryStore} (h : s.turns.length < 2 ^ 32) (context : UInt64) :
    (s.depth context).toNat = (s.turnsIn context).length := by
  have hin : (s.turnsIn context).length ≤ s.turns.length := List.length_filter_le _ _
  rw [depth, Nat.min_eq_left (by omega)]
  exact UInt32.toNat_ofNat_of_lt' (Nat.lt_of_le_of_lt hin h)

theorem contextIds_eq (s : MemoryStore) :
    s.contextIds = (List.range' 1 s.contexts).map UInt64.ofNat := by
  rw [contextIds, List.range'_eq_map_range, List.map_map]
  exact List.map_congr_left fun n _ => by rw [Function.comp_apply, Nat.add_comm]

theorem toNat_ofNat_range' {n : Nat} (h : n < 2 ^ 64) :
    ((List.range' 1 n).map UInt64.ofNat).map UInt64.toNat = List.range' 1 n := by
  rw [List.map_map]
  refine (List.map_congr_left fun k hk => ?_).trans (List.map_id _)
  have hle : k < 1 + n := (List.mem_range'_1.1 hk).2
  have hfits : k < 2 ^ 64 := by omega
  exact UInt64.toNat_ofNat_of_lt' hfits

theorem turns_useAll (later : List Use) (s : MemoryStore) : s.turns <+: (useAll later s).turns := by
  induction later using List.reverseRecOn with
  | nil => exact List.prefix_refl _
  | append_singleton later use ih =>
    rw [useAll_concat, (outcome use (useAll later s)).adds.turns]
    exact ih.trans (List.prefix_append _ _)

end MemoryStore

open MemoryStore

/-- At any point of any use of a store in memory, its turns are the appends that it has
acknowledged, numbered from one in their order, and no later use changes or removes them. The
contexts that it has created and forked have the ids from one on, each once; it makes one for each
request, but for those without a connection or under the fault that refuses them. What fails
changes neither. The head of a context is that of its last acknowledged append. An append fails
just without a connection, for a rejected type or under a fault, ends the connection just for the
last of these, and else echoes its context with the number of turns in it. -/
theorem store_append_only (tag : String) (uses : List MemoryStore.Use) (use : MemoryStore.Use)
    (hfew : ((useAll uses { tag }).perform use).2.turns.length < 2 ^ 32) :
    let s := useAll uses { tag }
    let past := history uses { tag }
    let answer := (s.perform use).1
    let next := (s.perform use).2
    (s.turns = past.filterMap Done.stored? ∧
      s.turns.map (·.number.toNat) = List.range' 1 s.turns.length ∧
      ∀ later, s.turns <+: (useAll later s).turns) ∧
    (past.filterMap Done.opened? = (List.range' 1 s.contexts).map UInt64.ofNat ∧
      (s.contexts < 2 ^ 64 → (past.filterMap Done.opened?).Nodup)) ∧
    s.connected = isLinked past ∧
    (∀ e, answer = .error e → next.turns = s.turns ∧ next.contexts = s.contexts) ∧
    (∀ context, use = .call (.head context) → s.connected = true →
      answer = .ok (.turn (headOf past context))) ∧
    (∀ base, use = .call (.create base) ∨ use = .call (.fork base) →
      ((∃ e, answer = .error e) ↔ s.connected = false ∨ refusesContexts past = true) ∧
      (∀ a, answer = .ok a → ∃ head, a = .context head ∧
        head.context = .ofNat (s.contexts + 1))) ∧
    ∀ parent d, use = .call (.append parent d) →
      ((∃ e, answer = .error e) ↔
        s.connected = false ∨ d.type.id ∈ rejectedTypes past ∨ isFaulty past = true) ∧
      (∀ a, answer = .ok a → ∃ ack, a = .context ack ∧ ack.context = d.context ∧
        ack.depth.toNat = (next.turnsIn d.context).length) ∧
      (s.connected = true →
        (next.connected = false ↔ d.type.id ∉ rejectedTypes past ∧ isFaulty past = true)) := by
  intro s past answer next
  have htold : Told past s := told tag uses
  have houtcome : Outcome s use answer next := outcome use s
  have hturns : s.turns.length < 2 ^ 64 := by
    have hgrows := congrArg List.length houtcome.adds.turns
    rw [List.length_append] at hgrows
    have hnext : next.turns.length < 2 ^ 32 := hfew
    omega
  have hids := htold.contexts.symm.trans s.contextIds_eq
  refine ⟨⟨htold.turns, ?_, fun later => turns_useAll later s⟩, ⟨hids, fun hcontexts => ?_⟩,
    htold.connected, ?_, ?_, ?_, ?_⟩
  · rw [← toNat_ofNat_range' hturns, ← htold.numbers, List.map_map]
    rfl
  · rw [hids]
    refine List.Nodup.of_map UInt64.toNat ?_
    rw [toNat_ofNat_range' hcontexts]
    exact List.nodup_range'
  · intro e he
    rw [he] at houtcome
    exact houtcome.unchanged
  · rintro context rfl hlink
    exact htold.head hlink houtcome
  · intro base huse
    exact htold.open huse houtcome
  · rintro parent d rfl
    obtain ⟨hfails, hecho, hends⟩ := htold.append houtcome
    refine ⟨hfails, fun a ha => ?_, hends⟩
    obtain ⟨ack, rfl, hcontext, hdepth⟩ := hecho a ha
    exact ⟨ack, rfl, hcontext, by rw [hdepth, toNat_depth hfew]⟩

/-- Two contexts are opened. A refused append between two that are stored in the second one counts
as one of those let pass, so the next one ends the connection. -/
theorem limited_appends_end :
    let tool : Delivery := ⟨2, ⟨"amplifier.ToolEvent", 1⟩, [0x80]⟩
    let plan : Delivery := ⟨2, ⟨"amplifier.PlanEvent", 1⟩, [0x80]⟩
    let uses : List MemoryStore.Use := [.call .connect, .call (.create 0), .call (.fork 9),
      .call (.append 0 plan), .switch (.reject "amplifier.ToolEvent"),
      .switch (.failAppendsAfter 2), .call (.append 0 tool), .call (.append 0 plan)]
    let s := useAll uses { tag := "t" }
    let answer := (s.perform (.call (.append 0 plan))).1
    let next := (s.perform (.call (.append 0 plan))).2
    next.turns.length < 2 ^ 32 ∧ (history uses { tag := "t" }).filterMap Done.opened? = [1, 2] ∧
      s.turns.map (·.number.toNat) = [1, 2] ∧ (∀ turn ∈ s.turns, turn.delivery.context = 2) ∧
      (∃ e, answer = .error e) ∧ next.turns = s.turns ∧ s.connected = true ∧
      next.connected = false := by
  intro tool plan uses s answer next
  have hfew : next.turns.length < 2 ^ 32 := by decide
  obtain ⟨⟨-, hnumbers, -⟩, ⟨hopened, -⟩, -, hkept, -, -, happend⟩ :=
    store_append_only "t" uses (.call (.append 0 plan)) hfew
  obtain ⟨hfails, -, hends⟩ := happend 0 plan rfl
  obtain ⟨e, he⟩ := hfails.2 (.inr (.inr (by decide)))
  exact ⟨hfew, hopened, hnumbers, by decide, ⟨e, he⟩, (hkept e he).1, by decide,
    (hends (by decide)).2 (by decide)⟩

end SessionRecorder
